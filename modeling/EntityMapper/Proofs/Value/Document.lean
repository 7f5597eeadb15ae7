import EntityMapper.Value.Document

set_option autoImplicit false

/-! Values that documents hold as they are. -/

namespace EntityMapper

theorem Integer.fits64_toInt (value : Int64) : Integer.fits64 value.toInt = true := by
  have lower := Int64.le_toInt value
  have upper := Int64.toInt_lt value
  rw [Integer.fits64, Integer.least64, Integer.greatest64, Bool.and_eq_true, decide_eq_true_eq,
    decide_eq_true_eq]
  omega

namespace Value

/-- Values without dates, decimals and numbers that are not finite, at any depth. -/
inductive Portable : Value → Prop where
  | null : Portable .null
  | bool (value : Bool) : Portable (.bool value)
  | int (value : Int64) : Portable (.int value)
  | float {value : Float} (finite : Binary64.isFinite value = true) : Portable (.float value)
  | text (value : String) : Portable (.text value)
  | list {items : List Value} (each : ∀ item ∈ items, Portable item) : Portable (.list items)

private theorem ofItems_itemsToJson_of {items : List Value}
    (each : ∀ item ∈ items, ofJson item.toJson = item) : ofItems (itemsToJson items) = items := by
  rw [itemsToJson_eq_map, ofItems_eq_map, List.map_map]
  exact (List.map_congr_left each).trans (List.map_id items)

/-- A portable value is read back from its document. -/
theorem ofJson_toJson {value : Value} (portable : value.Portable) :
    ofJson value.toJson = value := by
  induction portable with
  | null => rw [toJson, ofJson]
  | bool value => rw [toJson, ofJson]
  | int value => rw [toJson, ofJson, if_pos (Integer.fits64_toInt value), Int64.ofInt_toInt]
  | float finite => rw [toJson, if_pos finite, ofJson]
  | text value => rw [toJson, ofJson]
  | list each ih => rw [toJson, ofJson, ofItems_itemsToJson_of ih]

theorem ofItems_itemsToJson {items : List Value} (portable : ∀ item ∈ items, item.Portable) :
    ofItems (itemsToJson items) = items :=
  ofItems_itemsToJson_of fun item member => ofJson_toJson (portable item member)

end Value

end EntityMapper
