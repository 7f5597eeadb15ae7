import EntityMapper.Proofs.Keyed
import EntityMapper.Validation.Check

set_option autoImplicit false

/-! Errors of fields, told by what they hold: each field that failed with its first reason. -/

namespace EntityMapper

namespace FieldErrors

theorem get?_add (field other : String) (reason : Reason) (errors : FieldErrors) :
    (errors.add field reason).get? other =
      (errors.get? other).or (if other = field then some reason else none) := by
  rw [add, get?, get?, Keyed.insertNew, Keyed.contains]
  by_cases same : other = field
  · subst same
    rw [if_pos rfl]
    cases held : errors.fields.get? other with
    | none => rw [Option.isSome_none, if_neg Bool.false_ne_true, Keyed.get?_insert_self]; rfl
    | some first => rw [Option.isSome_some, if_pos rfl, held]; rfl
  · rw [if_neg same, Option.or_none]
    split
    · rfl
    · rw [Keyed.get?_insert_of_ne _ _ same]

theorem get?_foldl_add (failures : List (String × Reason)) (errors : FieldErrors)
    (field : String) :
    (failures.foldl (fun errors failure => errors.add failure.1 failure.2) errors).get? field =
      (errors.get? field).or (failures.lookup field) := by
  induction failures generalizing errors with
  | nil => rw [List.foldl_nil, List.lookup_nil, Option.or_none]
  | cons failure rest ih =>
      rw [List.foldl_cons, ih, get?_add, Option.or_assoc]
      congr 1
      by_cases same : field = failure.1
      · rw [if_pos same, List.lookup_cons, same, beq_self_eq_true, Option.some_or]
      · rw [if_neg same, List.lookup_cons, beq_eq_false_iff_ne.2 same, Option.none_or]

theorem get?_ofList (failures : List (String × Reason)) (field : String) :
    (ofList failures).get? field = failures.lookup field := by
  rw [ofList, get?_foldl_add]
  rfl

theorem isEmpty_iff (errors : FieldErrors) :
    errors.isEmpty = true ↔ ∀ field, errors.get? field = none := by
  obtain ⟨⟨entries, sorted⟩⟩ := errors
  cases entries with
  | nil => exact ⟨fun _ _ => rfl, fun _ => rfl⟩
  | cons entry rest =>
      have held : Entries.get? entry.1 (entry :: rest) = some entry.2 :=
        (Entries.get?_cons _ _ _).trans (if_pos rfl)
      exact ⟨nofun, fun none => nomatch held.symm.trans (none entry.1)⟩

end FieldErrors

namespace Entity

/-- All columns of an instance can be written. -/
def Sound (entity : Entity) (mode : WriteMode) : Prop :=
  ∀ column ∈ entity.schema.columns, column.check (entity.get? column.field) mode = none

/-- A field fails for the first reason for which a column of that name does. -/
theorem get?_faults (entity : Entity) (mode : WriteMode) (field : String) :
    (entity.faults mode).get? field = entity.schema.columns.findSome? fun column =>
      if column.field = field then column.check (entity.get? field) mode else none := by
  rw [faults, FieldErrors.get?_ofList]
  induction entity.schema.columns with
  | nil => rfl
  | cons column rest ih =>
      rw [List.findSome?_cons]
      by_cases same : column.field = field
      · subst same
        rw [if_pos rfl]
        cases failed : column.check (entity.get? column.field) mode with
        | none =>
            rw [List.filterMap_cons_none (by rw [failed, Option.map_none])]
            exact ih
        | some reason =>
            rw [List.filterMap_cons_some (by rw [failed, Option.map_some]), List.lookup_cons_self]
      · have other : (field == column.field) = false := beq_eq_false_iff_ne.2 (Ne.symm same)
        rw [if_neg same]
        cases failed : column.check (entity.get? column.field) mode with
        | none =>
            rw [List.filterMap_cons_none (by rw [failed, Option.map_none])]
            exact ih
        | some reason =>
            rw [List.filterMap_cons_some (by rw [failed, Option.map_some]), List.lookup_cons, other]
            exact ih

theorem isEmpty_faults (entity : Entity) (mode : WriteMode) :
    (entity.faults mode).isEmpty = true ↔ entity.Sound mode := by
  rw [FieldErrors.isEmpty_iff]
  simp only [get?_faults, List.findSome?_eq_none_iff]
  constructor
  · intro none column member
    have found := none column.field column member
    rwa [if_pos rfl] at found
  · intro sound field column member
    split
    · rename_i same
      exact same ▸ sound column member
    · rfl

end Entity

end EntityMapper
