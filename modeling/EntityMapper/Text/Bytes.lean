set_option autoImplicit false

/-! The UTF-8 bytes of a text, and cuts that leave its characters whole. -/

namespace EntityMapper.Text

/-- The byte position between characters at which a search ends that goes back byte by byte from
`offset`. -/
def edge (text : String) : Nat → Nat
  | 0 => 0
  | offset + 1 =>
      if (String.Pos.Raw.mk (offset + 1)).IsValid text then offset + 1 else edge text offset

/-- A text can be cut where the search ends. -/
theorem isValid_edge (text : String) (offset : Nat) :
    (String.Pos.Raw.mk (edge text offset)).IsValid text := by
  induction offset with
  | zero => exact String.Pos.Raw.isValid_zero
  | succ offset ih =>
      rw [edge]
      split
      · assumption
      · exact ih

/-- A text of at most `limit` bytes as it is, a longer one up to the last edge in them. -/
def truncated (limit : Nat) (text : String) : String :=
  if text.utf8ByteSize ≤ limit then text
  else (text.sliceTo (text.pos ⟨edge text limit⟩ (isValid_edge text limit))).copy

/-- A text of at most `limit` bytes as it is, a longer one cut and marked by three dots. -/
def abridge (limit : Nat) (text : String) : String :=
  if text.utf8ByteSize ≤ limit then text else truncated limit text ++ "..."

end EntityMapper.Text
