import EntityMapper.Proofs.Plan.Drawing
import EntityMapper.Proofs.Plan.Populating
import EntityMapper.Proofs.Plan.Taking

set_option autoImplicit false

/-! The answer to the query of a plan is drawn as the choices of linked rows, ordered by the keys of
the roots. -/

namespace EntityMapper

open Entity Slices Store

namespace Plan

/-- The slices of a row, as they are handed over, are what is chosen for the levels. -/
def Sliced (plan : Plan) (choice : Nat → Record) (row : Row) : Prop :=
  ∀ index level, plan.levels[index]? = some level → slice? level row = some (choice index)

section Slice

variable {plan : Plan} {choice : Nat → Record} {level : Level} {row : Row} {record : Record}

theorem slice?_of_get? (held : row.get? level.label = some record)
    (filled : record.hasValue = true) : slice? level row = some record :=
  slice?_eq_some_iff.2 ⟨.inl held, filled⟩

theorem slice?_flat (schema : EntitySchema) (filled : record.hasValue = true) :
    slice? (.root schema) (Row.flat record) = some record := by
  have flat : (Row.flat record).flat? = some record := Keyed.get?_insert_self _ _ _
  refine slice?_eq_some_iff.2 ⟨?_, filled⟩
  by_cases label : schema.table = Row.flatLabel
  · left
    change (Row.flat record).get? schema.table = _
    rw [label]
    exact flat
  · right
    exact ⟨rfl, Keyed.get?_insert_of_ne _ _ label, flat⟩

theorem selected_eq (joined : plan.isJoined = true) (row : Row) :
    Row.selected (EntityQuery.selection plan) row =
      Keyed.ofList (plan.levels.filterMap fun level =>
        (row.get? level.label).map fun record => (level.label, record)) := by
  have items : EntityQuery.selection plan =
      plan.levels.map fun level => .allOf level.label := if_pos joined
  have nonempty : (EntityQuery.selection plan).isEmpty = false := by
    rw [items]
    rfl
  rw [Row.selected, nonempty, items, List.filterMap_map]
  rfl

/-- A slice that is selected is handed over. -/
theorem get?_selected (apart : plan.levels.Pairwise fun left right => left.label ≠ right.label)
    (joined : plan.isJoined = true) (member : level ∈ plan.levels)
    (held : row.get? level.label = some record) :
    (Row.selected (EntityQuery.selection plan) row).get? level.label = some record := by
  rw [selected_eq joined]
  apply Keyed.get?_ofList_of_mem
  · apply apart.filterMap
    intro left right different first found second other
    obtain ⟨_, -, rfl⟩ := Option.map_eq_some_iff.1 found
    obtain ⟨_, -, rfl⟩ := Option.map_eq_some_iff.1 other
    exact different
  · apply List.mem_filterMap.2
    exact ⟨level, member, by rw [held, Option.map_some]⟩

/-- No slice but those that are selected is handed over. -/
theorem get?_selected_of_absent (joined : plan.isJoined = true) {label : String}
    (absent : ∀ level ∈ plan.levels, level.label = label → row.get? label = none) :
    (Row.selected (EntityQuery.selection plan) row).get? label = none := by
  rw [selected_eq joined]
  apply Keyed.get?_ofList_of_absent
  rintro entry member rfl
  obtain ⟨level, listed, shown⟩ := List.mem_filterMap.1 member
  obtain ⟨record, held, rfl⟩ := Option.map_eq_some_iff.1 shown
  cases (absent level listed rfl).symm.trans held

theorem nanFree_selected (joined : plan.isJoined = true) (free : row.NanFree) :
    (Row.selected (EntityQuery.selection plan) row).NanFree := by
  rw [selected_eq joined]
  intro entry member
  obtain ⟨level, -, shown⟩ := List.mem_filterMap.1 (Keyed.mem_of_mem_ofList member)
  obtain ⟨record, held, rfl⟩ := Option.map_eq_some_iff.1 shown
  exact free _ (Entries.mem_of_get? held)

theorem shows_of_sliced {slices : Slices} (drawn : List.Forall₂ (DrawnFrom row) plan.levels slices)
    (sliced : plan.Sliced choice row) : plan.Shows choice slices := by
  intro index level placed
  obtain ⟨slot, found, made⟩ := Pairing.exists_getElem?_right drawn placed
  rw [DrawnFrom, sliced index level placed] at made
  obtain ⟨supply, rfl⟩ := made
  refine ⟨((hydrate level.schema (choice index) .storage).run supply).1, ?_, ⟨supply, rfl⟩, rfl⟩
  rw [Slices.at?, found]
  rfl

theorem shows_drawRows {choices : List (Nat → Record)} {rows : List Row}
    (sliced : List.Forall₂ plan.Sliced choices rows) (supply : Supply) :
    List.Forall₂ (fun choice slices =>
        plan.Shows choice slices ∧ slices.length = plan.levels.length)
      choices ((drawRows plan rows).run supply).1 := by
  induction sliced generalizing supply with
  | nil => exact List.Forall₂.nil
  | @cons choice row choices rows here rest ih =>
      have drawn := drawSlices_run row plan.levels supply
      rw [drawRows_cons_run]
      exact List.Forall₂.cons ⟨shows_of_sliced drawn here, drawn.length_eq.symm⟩ (ih _)

end Slice

section Drawn

variable {store : Store} {registry : Registry} {plan : Plan} {choice : Nat → Record}

/-- A row of a table holds a value, its key. -/
theorem hasValue_of_mem (grounded : plan.Grounded store registry) {index : Nat} {level : Level}
    (placed : plan.levels[index]? = some level) {record : Record}
    (stored : record ∈ store.rows level.schema.table) : record.hasValue = true := by
  obtain ⟨name, found⟩ := grounded.declared.found index level placed
  obtain ⟨key, held⟩ := grounded.sound.keyed name level.schema found record stored
  rw [Record.value] at held
  cases given : record.get? level.schema.primaryKey.storage with
  | none =>
      rw [given] at held
      cases held
  | some value =>
      rw [given, Option.getD_some] at held
      subst held
      exact Record.hasValue_iff.2 ⟨_, Entries.mem_of_get? given, rfl⟩

/-- Instances that are made of rows without NaN can be taken in. -/
theorem complete_of_shows (grounded : plan.Grounded store registry)
    (fits : plan.Fits store registry choice) {slices : Slices} (shows : plan.Shows choice slices)
    (length : slices.length = plan.levels.length) : plan.Complete slices := by
  have each : ∀ (index : Nat) (entity : Entity), slices.at? index = some entity →
      entity.Read ∧ entity.relations = [] := by
    intro index entity found
    have inside : index < plan.levels.length := by
      rw [← length]
      exact (List.getElem?_eq_some_iff.1 (Option.join_eq_some_iff.1 found)).1
    have placed := List.getElem?_eq_getElem inside
    obtain ⟨other, foundOther, made, bare⟩ := shows index _ placed
    cases found.symm.trans foundOther
    obtain ⟨name, registered⟩ := grounded.declared.found index _ placed
    have free := grounded.free name _ registered _ (fits index _ placed).1
    exact ⟨⟨_, made.stored, nanFree_storedFields .storage _ free⟩, bare⟩
  refine ⟨⟨fun index entity found => (each index entity found).1,
    fun index entity found => (each index entity found).2⟩, ?_, length⟩
  obtain ⟨entity, found, -⟩ := shows 0 plan.root rfl
  cases slices with
  | nil => cases found
  | cons slot rest =>
      cases slot with
      | none => cases found
      | some other => rfl

end Drawn

end Plan

end EntityMapper
