import EntityMapper.Entity.Basic
import EntityMapper.Proofs.Keyed
import EntityMapper.Proofs.Value.Equality

set_option autoImplicit false

/-! Instances that were read from rows without NaN are compared by an equivalence. -/

namespace EntityMapper

/-- The form that a column wants brings no NaN. -/
theorem DataType.hasNan_coerce (type : DataType) {value : Value} (free : value.hasNan = false) :
    (type.coerce value).hasNan = false := by
  have boolean : (coerceBoolean value).hasNan = false := by
    unfold coerceBoolean
    split
    · rfl
    · split
      · rfl
      · split <;> rfl
    · exact free
  have date : (coerceDate value).hasNan = false := by
    unfold coerceDate
    split
    · rfl
    · cases DateTime.read? ‹String› <;> rfl
    · exact free
  have dateTime : (coerceDateTime value).hasNan = false := by
    unfold coerceDateTime
    split
    · rfl
    · cases DateTime.read? ‹String› <;> rfl
    · exact free
  have decimal : (coerceDecimal value).hasNan = false := by
    unfold coerceDecimal
    split
    · split <;> rfl
    · rfl
    · rename_i number
      cases Decimal.ofFloat? number with
      | none => exact free
      | some converted => rfl
    · exact free
  have integer : (coerceInteger value).hasNan = false := by
    unfold coerceInteger
    split
    · split <;> rfl
    · rfl
    · exact free
  cases type <;> assumption

namespace Entity

theorem hasNan_input? {column : Column} {source : FieldSource} {record : Record} {value : Value}
    (free : record.NanFree) (given : input? column source record = some value) :
    value.hasNan = false := by
  obtain ⟨original, found, rfl⟩ := Option.map_eq_some_iff.1 given
  have member := Entries.mem_of_get? (Option.filter_eq_some_iff.1 found).1
  exact column.type.hasNan_coerce (free _ member)

theorem storedFields_eq (source : FieldSource) (record : Record) (columns : List Column) :
    storedFields source record columns = Keyed.ofList (columns.map fun column =>
      (column.field, (input? column source record).getD .null)) := by
  rw [storedFields, Keyed.ofList, List.foldl_map]

/-- What is stored holds no NaN if the record holds none. -/
theorem nanFree_storedFields (source : FieldSource) {record : Record} (columns : List Column)
    (free : record.NanFree) : (storedFields source record columns).NanFree := by
  rw [storedFields_eq]
  intro entry member
  obtain ⟨column, -, rfl⟩ := List.mem_map.1 (Keyed.mem_of_mem_ofList member)
  cases given : input? column source record with
  | none => rfl
  | some value => exact hasNan_input? free given

/-- An instance that knows what is stored, without NaN. -/
def Read (entity : Entity) : Prop := ∃ record, entity.stored = some record ∧ record.NanFree

theorem isSame_of_stored {left right : Entity} {first second : Record}
    (storedLeft : left.stored = some first) (storedRight : right.stored = some second) :
    left.isSame right = (decide (left.typeName = right.typeName) && first.same second) := by
  rw [isSame, storedLeft, storedRight]

theorem Read.isSame_self {entity : Entity} (read : entity.Read) : entity.isSame entity = true := by
  obtain ⟨record, stored, free⟩ := read
  rw [isSame_of_stored stored stored, Record.same_self free]
  simp

theorem Read.isSame_comm {left right : Entity} (first : left.Read) (second : right.Read) :
    left.isSame right = right.isSame left := by
  obtain ⟨_, storedLeft, -⟩ := first
  obtain ⟨_, storedRight, -⟩ := second
  rw [isSame_of_stored storedLeft storedRight, isSame_of_stored storedRight storedLeft,
    Record.same_comm]
  simp [eq_comm]

theorem Read.isSame_trans {left middle right : Entity} (first : left.Read) (second : middle.Read)
    (third : right.Read) (same : left.isSame middle = true) (others : middle.isSame right = true) :
    left.isSame right = true := by
  obtain ⟨_, storedLeft, -⟩ := first
  obtain ⟨_, storedMiddle, -⟩ := second
  obtain ⟨_, storedRight, -⟩ := third
  rw [isSame_of_stored storedLeft storedMiddle, Bool.and_eq_true, decide_eq_true_eq] at same
  rw [isSame_of_stored storedMiddle storedRight, Bool.and_eq_true, decide_eq_true_eq] at others
  rw [isSame_of_stored storedLeft storedRight, Bool.and_eq_true, decide_eq_true_eq]
  exact ⟨same.1.trans others.1, Record.same_trans same.2 others.2⟩

end Entity

end EntityMapper
