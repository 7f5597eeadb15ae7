import EntityMapper.Proofs.Number.Binary64
import EntityMapper.Proofs.Value.Document

set_option autoImplicit false

/-! Values that are read from documents are held by documents as they are. -/

namespace EntityMapper

/-- Documents of the data model: integers of 64 bits with or without a sign, other numbers finite,
and objects that hold each key once. -/
inductive Json.Proper : Json → Prop where
  | null : Proper .null
  | bool (value : Bool) : Proper (.bool value)
  | integer {value : Int} (least : Integer.least64 ≤ value)
      (greatest : value < 18446744073709551616) : Proper (.integer value)
  | float {value : Float} (finite : Binary64.isFinite value = true) : Proper (.float value)
  | text (value : String) : Proper (.text value)
  | array {items : List Json} (each : ∀ item ∈ items, Proper item) : Proper (.array items)
  | object {members : List (String × Json)} (apart : (members.map Prod.fst).Nodup)
      (each : ∀ member ∈ members, Proper member.2) : Proper (.object members)

namespace Value

/-- An integer beyond the signed ones of 64 bits becomes a finite number. -/
theorem portable_ofInteger {value : Int} (least : Integer.least64 ≤ value)
    (greatest : value < 18446744073709551616) : (ofJson (.integer value)).Portable := by
  rw [ofJson]
  split
  · exact .int _
  · refine .float (Binary64.isFinite_ofInt ?_)
    have bound : value.natAbs < 2 ^ 64 := by
      rw [Integer.least64] at least
      omega
    by_cases zero : value.natAbs = 0
    · rw [zero]
      decide
    · exact ((Nat.log2_lt zero).2 bound).trans (by decide)

/-- The value of a proper document is portable. -/
theorem portable_ofJson {document : Json} (proper : document.Proper) :
    (ofJson document).Portable := by
  induction proper with
  | null => rw [ofJson]; exact .null
  | bool value => rw [ofJson]; exact .bool value
  | integer least greatest => exact portable_ofInteger least greatest
  | float finite => rw [ofJson]; exact .float finite
  | text value => rw [ofJson]; exact .text value
  | array each ih =>
      rw [ofJson, ofItems_eq_map]
      exact .list (List.forall_mem_map.2 ih)
  | object apart each ih => rw [ofJson]; exact .text _

end Value

end EntityMapper
