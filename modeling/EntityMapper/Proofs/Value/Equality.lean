import EntityMapper.Entity.Record

set_option autoImplicit false

/-! Equality of values: symmetric and transitive, and reflexive where no NaN is. -/

namespace EntityMapper

namespace Decimal

theorem same_self (value : Decimal) : value.same value = true := by
  rw [same, beq_self_eq_true]

theorem same_comm (left right : Decimal) : left.same right = right.same left := by
  rw [same, same, Bool.eq_iff_iff, beq_iff_eq, beq_iff_eq]
  exact eq_comm

theorem same_trans {left middle right : Decimal} (first : left.same middle = true)
    (second : middle.same right = true) : left.same right = true := by
  rw [same, beq_iff_eq] at first second ⊢
  have positive : (tenTo middle.scale : Int) ≠ 0 := by
    have above := tenTo_pos middle.scale
    omega
  -- Both sides are compared at the scales of all three numbers.
  apply Int.eq_of_mul_eq_mul_right positive
  calc left.numerator * tenTo right.scale * tenTo middle.scale
      = left.numerator * tenTo middle.scale * tenTo right.scale := Int.mul_right_comm _ _ _
    _ = middle.numerator * tenTo left.scale * tenTo right.scale := by rw [first]
    _ = middle.numerator * tenTo right.scale * tenTo left.scale := Int.mul_right_comm _ _ _
    _ = right.numerator * tenTo middle.scale * tenTo left.scale := by rw [second]
    _ = right.numerator * tenTo left.scale * tenTo middle.scale := Int.mul_right_comm _ _ _

end Decimal

namespace Value

mutual

/-- Whether a value is NaN or holds one. -/
def hasNan : Value → Bool
  | .float value => (Binary64.content value).isNan
  | .list items => itemsHaveNan items
  | _ => false

def itemsHaveNan : List Value → Bool
  | [] => false
  | item :: rest => item.hasNan || itemsHaveNan rest

end

mutual

/-- A value equals itself, unless NaN is in it. -/
theorem same_self : (value : Value) → value.same value = !value.hasNan
  | .float value => by
      rw [same, hasNan, Binary64.same, Binary64.Content.same_self]
  | .list items => by
      rw [same, hasNan, sameItems_self items]
  | .null => rfl
  | .decimal value => by simp [same, hasNan, Decimal.same_self]
  | .bool value => by simp [same, hasNan]
  | .int value => by simp [same, hasNan]
  | .text value => by simp [same, hasNan]
  | .date value => by simp [same, hasNan]
  | .dateTime value => by simp [same, hasNan]

theorem sameItems_self : (items : List Value) → sameItems items items = !itemsHaveNan items
  | [] => rfl
  | item :: rest => by
      rw [sameItems, itemsHaveNan, same_self item, sameItems_self rest, Bool.not_or]

end

mutual

theorem same_comm : (left right : Value) → left.same right = right.same left
  | .list left, right => by
      cases right with
      | list right =>
          rw [same, same]
          exact sameItems_comm left right
      | _ => rfl
  | .float left, right => by
      cases right with
      | float right => exact Binary64.Content.same_comm _ _
      | _ => rfl
  | .decimal left, right => by
      cases right with
      | decimal right => exact Decimal.same_comm left right
      | _ => rfl
  | .null, right => by cases right <;> rfl
  | .bool left, right => by cases right <;> simp [same, Bool.beq_comm]
  | .int left, right => by cases right <;> simp [same, BEq.comm]
  | .text left, right => by cases right <;> simp [same, BEq.comm]
  | .date left, right => by cases right <;> simp [same, BEq.comm]
  | .dateTime left, right => by cases right <;> simp [same, BEq.comm]

theorem sameItems_comm : (lefts rights : List Value) →
    sameItems lefts rights = sameItems rights lefts
  | [], rights => by cases rights <;> rfl
  | left :: lefts, rights => by
      cases rights with
      | nil => rfl
      | cons right rights =>
          rw [sameItems, sameItems, same_comm left right, sameItems_comm lefts rights]

end

mutual

theorem same_trans : (left middle right : Value) → left.same middle = true →
    middle.same right = true → left.same right = true
  | .list left, middle, right, first, second => by
      cases middle with
      | list middle =>
          cases right with
          | list right => exact sameItems_trans left middle right first second
          | _ => cases second
      | _ => cases first
  | .float left, middle, right, first, second => by
      cases middle with
      | float middle =>
          cases right with
          | float right => exact Binary64.Content.same_trans first second
          | _ => cases second
      | _ => cases first
  | .decimal left, middle, right, first, second => by
      cases middle with
      | decimal middle =>
          cases right with
          | decimal right => exact Decimal.same_trans first second
          | _ => cases second
      | _ => cases first
  | .null, middle, right, first, second => by
      cases middle with
      | null => exact second
      | _ => cases first
  | .bool left, middle, right, first, second => by
      cases middle with
      | bool middle =>
          obtain rfl : left = middle := eq_of_beq first
          exact second
      | _ => cases first
  | .int left, middle, right, first, second => by
      cases middle with
      | int middle =>
          obtain rfl : left = middle := eq_of_beq first
          exact second
      | _ => cases first
  | .text left, middle, right, first, second => by
      cases middle with
      | text middle =>
          obtain rfl : left = middle := eq_of_beq first
          exact second
      | _ => cases first
  | .date left, middle, right, first, second => by
      cases middle with
      | date middle =>
          obtain rfl : left = middle := eq_of_beq first
          exact second
      | _ => cases first
  | .dateTime left, middle, right, first, second => by
      cases middle with
      | dateTime middle =>
          obtain rfl : left = middle := eq_of_beq first
          exact second
      | _ => cases first

theorem sameItems_trans : (lefts middles rights : List Value) → sameItems lefts middles = true →
    sameItems middles rights = true → sameItems lefts rights = true
  | [], middles, rights, first, second => by
      cases middles with
      | nil => exact second
      | cons middle middles => cases first
  | left :: lefts, middles, rights, first, second => by
      cases middles with
      | nil => cases first
      | cons middle middles =>
          cases rights with
          | nil => cases second
          | cons right rights =>
              rw [sameItems, Bool.and_eq_true] at first second ⊢
              exact ⟨same_trans left middle right first.1 second.1,
                sameItems_trans lefts middles rights first.2 second.2⟩

end

end Value

namespace Record

/-- No column of the record holds NaN. -/
def NanFree (record : Record) : Prop := ∀ entry ∈ record.entries, entry.2.hasNan = false

private theorem sameEntries_self (entries : List (String × Value))
    (free : ∀ entry ∈ entries, entry.2.hasNan = false) : sameEntries entries entries = true := by
  induction entries with
  | nil => rfl
  | cons entry rest ih =>
      have here := free entry List.mem_cons_self
      have others := ih fun other member => free other (List.mem_cons_of_mem _ member)
      rw [sameEntries, beq_self_eq_true, Value.same_self, here, others]
      rfl

theorem same_self {record : Record} (free : record.NanFree) : record.same record = true :=
  sameEntries_self record.entries free

private theorem sameEntries_comm (lefts rights : List (String × Value)) :
    sameEntries lefts rights = sameEntries rights lefts := by
  induction lefts generalizing rights with
  | nil => cases rights <;> rfl
  | cons left lefts ih =>
      cases rights with
      | nil => rfl
      | cons right rights =>
          rw [sameEntries, sameEntries, ih, Value.same_comm, BEq.comm]

theorem same_comm (left right : Record) : left.same right = right.same left :=
  sameEntries_comm left.entries right.entries

private theorem sameEntries_trans {lefts middles rights : List (String × Value)}
    (first : sameEntries lefts middles = true) (second : sameEntries middles rights = true) :
    sameEntries lefts rights = true := by
  induction lefts generalizing middles rights with
  | nil =>
      cases middles with
      | nil => exact second
      | cons middle middles => cases first
  | cons left lefts ih =>
      cases middles with
      | nil => cases first
      | cons middle middles =>
          cases rights with
          | nil => cases second
          | cons right rights =>
              simp only [sameEntries, Bool.and_eq_true, beq_iff_eq] at first second ⊢
              obtain ⟨⟨keys, values⟩, others⟩ := first
              obtain ⟨⟨moreKeys, moreValues⟩, more⟩ := second
              exact ⟨⟨keys.trans moreKeys, Value.same_trans _ _ _ values moreValues⟩,
                ih others more⟩

theorem same_trans {left middle right : Record} (first : left.same middle = true)
    (second : middle.same right = true) : left.same right = true :=
  sameEntries_trans first second

end Record

end EntityMapper
