set_option autoImplicit false

/-! Sets of characters, given as inclusive ranges of code points. -/

namespace EntityMapper.Text

/-- Inclusive ranges of code points. -/
abbrev Ranges := List (Nat × Nat)

namespace Ranges

/-- Whether some range holds the character. -/
def contains (ranges : Ranges) (c : Char) : Bool :=
  ranges.any fun range => range.1 ≤ c.toNat && c.toNat ≤ range.2

@[simp] theorem contains_nil (c : Char) : contains [] c = false := rfl

@[simp] theorem contains_cons (range : Nat × Nat) (ranges : Ranges) (c : Char) :
    contains (range :: ranges) c =
      ((range.1 ≤ c.toNat && c.toNat ≤ range.2) || contains ranges c) := rfl

end Ranges

end EntityMapper.Text
