import EntityMapper.Proofs.Plan.Roots
import Mathlib.Data.List.Sort

set_option autoImplicit false

/-! What a store answers to the query of a plan: the slices of all choices of linked rows, ordered
by the keys of the roots where rows are joined. -/

namespace EntityMapper

open Plan Store

namespace EntitySchema

variable {schema : EntitySchema} {first second third : Record}

theorem KeyLess.trans (left : schema.KeyLess first second) (right : schema.KeyLess second third) :
    schema.KeyLess first third := by
  obtain ⟨low, middle, lowHeld, middleHeld, less⟩ := left
  obtain ⟨again, high, againHeld, highHeld, lessAgain⟩ := right
  cases middleHeld.symm.trans againHeld
  exact ⟨low, high, lowHeld, highHeld, Int64.lt_trans less lessAgain⟩

theorem KeyLess.irrefl (schema : EntitySchema) (record : Record) :
    ¬ schema.KeyLess record record := by
  rintro ⟨low, high, lowHeld, highHeld, less⟩
  cases lowHeld.symm.trans highHeld
  exact Int64.lt_irrefl less

end EntitySchema

namespace Store

variable {store : Store}

/-- Rows that are not put the other way round stand in the order of the first column that the order
names, or hold the same there. -/
theorem le_of_precedes_eq_false {column : ColumnRef} {rest : List OrderBy} {left right : Row}
    {first second : Int64}
    (sorted : store.precedes (⟨column, .ascending⟩ :: rest) right left = false)
    (firstHeld : left.value column = .int first) (secondHeld : right.value column = .int second) :
    first ≤ second := by
  rw [precedes, Bool.or_eq_false_iff] at sorted
  have notLess : store.before (right.value column) (left.value column) = false := sorted.1
  rw [firstHeld, secondHeld, store.before_int] at notLess
  exact Int64.not_lt.1 (of_decide_eq_false notLess)

end Store

namespace EntityQuery

/-- Keys of levels are added behind what is asked for. -/
theorem exists_orderByKeys (levels : List Level) (entries : List OrderBy) :
    ∃ more, orderByKeys levels entries = entries ++ more ∧
      ∀ entry ∈ more, ∃ level ∈ levels, entry = ⟨level.keyColumn, .ascending⟩ := by
  induction levels generalizing entries with
  | nil => exact ⟨[], (List.append_nil _).symm, List.forall_mem_nil _⟩
  | cons level others ih =>
      have among {entry : OrderBy}
          (key : ∃ other ∈ others, entry = ⟨other.keyColumn, .ascending⟩) :
          ∃ other ∈ level :: others, entry = ⟨other.keyColumn, .ascending⟩ := by
        obtain ⟨other, member, same⟩ := key
        exact ⟨other, List.mem_cons_of_mem _ member, same⟩
      unfold orderByKeys
      rw [List.foldl_cons]
      split
      · obtain ⟨more, added, keys⟩ := ih entries
        exact ⟨more, added, fun entry member => among (keys entry member)⟩
      · obtain ⟨more, added, keys⟩ := ih (entries ++ [⟨level.keyColumn, .ascending⟩])
        rw [List.append_assoc] at added
        refine ⟨_, added, List.forall_mem_cons.2 ⟨⟨level, List.mem_cons_self, rfl⟩, ?_⟩⟩
        exact fun entry member => among (keys entry member)

/-- Joined rows are ordered by the key of the roots first. -/
theorem exists_order {config : Config} {resolution : Resolution}
    (joined : resolution.plan.isJoined = true) (ordering : config.ordersPopulated = true) :
    ∃ rest, order config resolution [] =
      ⟨resolution.plan.root.keyColumn, .ascending⟩ :: rest := by
  unfold order
  rw [joined, ordering]
  obtain ⟨rest, added, -⟩ :=
    exists_orderByKeys resolution.plan.others [⟨resolution.plan.root.keyColumn, .ascending⟩]
  exact ⟨rest, added⟩

end EntityQuery

section Answers

variable {store : Store} {registry : Registry} {root : EntitySchema} {resolution : Resolution}
  {config : Config} {populates : List Populate} {page : Option Page} {rows : List Row}

/-- A joined row holds the key of the root that is chosen. -/
theorem exists_key_of_chosen (grounded : resolution.plan.Grounded store registry)
    {choice : Nat → Record} {row : Row} (fits : resolution.plan.Fits store registry choice)
    (chosen : resolution.plan.Chosen choice row) :
    ∃ key : Int64,
      (choice 0).value resolution.plan.root.schema.primaryKey.storage = .int key ∧
        row.value resolution.plan.root.keyColumn = .int key := by
  obtain ⟨name, found⟩ := grounded.declared.found 0 resolution.plan.root rfl
  have stored := (fits 0 resolution.plan.root rfl).1
  obtain ⟨key, value⟩ := grounded.sound.keyed name _ found _ stored
  refine ⟨key, value, ?_⟩
  rw [Level.keyColumn, Row.value_qualified, chosen 0 resolution.plan.root rfl, Option.map_some,
    Option.getD_some, value]

/-- Of two joined rows in the order of a query the first one has the same root or one with a smaller
key. -/
theorem eq_or_keyLess_of_precedes (grounded : resolution.plan.Grounded store registry)
    (joined : resolution.plan.isJoined = true) (ordering : config.ordersPopulated = true)
    {first second : Nat → Record} {left right : Row}
    (fitsFirst : resolution.plan.Fits store registry first)
    (chosenFirst : resolution.plan.Chosen first left)
    (fitsSecond : resolution.plan.Fits store registry second)
    (chosenSecond : resolution.plan.Chosen second right)
    (keeps : store.precedes (EntityQuery.order config resolution []) right left = false) :
    first 0 = second 0 ∨ resolution.plan.root.schema.KeyLess (first 0) (second 0) := by
  obtain ⟨rest, order⟩ := EntityQuery.exists_order joined ordering
  rw [order] at keeps
  obtain ⟨name, found⟩ := grounded.declared.found 0 resolution.plan.root rfl
  obtain ⟨low, lowHeld, lowShown⟩ := exists_key_of_chosen grounded fitsFirst chosenFirst
  obtain ⟨high, highHeld, highShown⟩ := exists_key_of_chosen grounded fitsSecond chosenSecond
  have ordered : low ≤ high := le_of_precedes_eq_false keeps lowShown highShown
  by_cases equal : low = high
  · left
    apply grounded.sound.eq_of_key found (fitsFirst 0 resolution.plan.root rfl).1
      (fitsSecond 0 resolution.plan.root rfl).1
    rw [lowHeld, highHeld, equal]
  · right
    exact ⟨low, high, lowHeld, highHeld, Int64.lt_of_le_of_ne ordered equal⟩

/-- Joined rows are the choices of linked rows, in the order of the keys of the roots. -/
theorem exists_choices_of_joined (covers : resolution.Covers store registry root)
    (grounded : resolution.plan.Grounded store registry)
    (joined : resolution.plan.isJoined = true) (ordering : config.ordersPopulated = true)
    (answers : store.Answers (.named root.table)
      (EntityQuery.findOptions config resolution ⟨populates, [], [], page⟩) rows) :
    ∃ choices, List.Forall₂ resolution.plan.Sliced choices rows ∧
      resolution.plan.Exhausts store registry resolution.plan.root.schema.KeyLess choices := by
  obtain ⟨listed, perm, sorted, rfl⟩ := answers
  have chosen : ∀ row ∈ listed, ∃ choice : Nat → Record,
      resolution.plan.Fits store registry choice ∧ resolution.plan.Chosen choice row :=
    fun row member => covers.sound row (perm.mem_iff.1 member)
  choose! choiceOf facts using chosen
  refine ⟨listed.map choiceOf, ?_, ?_, ?_, ?_⟩
  · rw [List.forall₂_map_left_iff, List.forall₂_map_right_iff, List.forall₂_same]
    intro row member index level placed
    obtain ⟨fits, held⟩ := facts row member
    have filled := hasValue_of_mem grounded placed (fits index level placed).1
    exact slice?_of_get? (get?_selected covers.apart joined (List.mem_of_getElem? placed)
      (held index level placed)) filled
  · intro choice member
    obtain ⟨row, there, rfl⟩ := List.mem_map.1 member
    exact (facts row there).1
  · intro choice fits
    obtain ⟨row, there, held⟩ := covers.complete choice fits
    have member := perm.mem_iff.2 there
    refine ⟨choiceOf row, List.mem_map_of_mem member, fun index inside => ?_⟩
    have placed := List.getElem?_eq_getElem inside
    have same := ((facts row member).2 index _ placed).symm.trans (held index _ placed)
    exact Option.some.inj same
  · rw [List.pairwise_map]
    refine sorted.imp_of_mem ?_
    intro left right inLeft inRight keeps
    exact eq_or_keyLess_of_precedes grounded joined ordering (facts left inLeft).1
      (facts left inLeft).2 (facts right inRight).1 (facts right inRight).2 keeps

/-- The rows of a table are handed over as they are, in any order. -/
theorem exists_records_of_unjoined
    (answers : store.Answers (.named root.table)
      (EntityQuery.findOptions config (.start root) ⟨populates, [], [], page⟩) rows) :
    ∃ records : List Record, records.Perm (store.rows root.table) ∧
      rows = records.map Row.flat := by
  obtain ⟨listed, perm, -, rfl⟩ := answers
  change listed.Perm ((store.rows root.table).map fun record =>
    Keyed.empty.insert root.table record) at perm
  refine ⟨listed.map fun row => (row.get? root.table).getD default, ?_, ?_⟩
  · refine (perm.map _).trans ?_
    rw [List.map_map]
    apply List.Perm.of_eq
    apply (List.map_congr_left _).trans (List.map_id _)
    intro record member
    simp only [Function.comp_apply, Keyed.get?_insert_self, Option.getD_some, id_eq]
  · rw [List.map_map]
    apply List.map_congr_left
    intro row member
    obtain ⟨record, -, rfl⟩ := List.mem_map.1 (perm.mem_iff.1 member)
    have entries : (Keyed.empty.insert root.table record).entries = [(root.table, record)] := rfl
    have held : (Keyed.empty.insert root.table record).get? root.table = some record :=
      Keyed.get?_insert_self _ _ _
    change Row.flat (Keyed.ofList ((Keyed.empty.insert root.table record).entries.flatMap
      fun entry => entry.2.entries)) =
        Row.flat (((Keyed.empty.insert root.table record).get? root.table).getD default)
    rw [entries, held, List.flatMap_singleton, Keyed.ofList_entries, Option.getD_some]

/-- Without associations each row is a choice. -/
theorem sliced_flat (grounded : (Resolution.start root).plan.Grounded store registry)
    {records : List Record} (stored : ∀ record ∈ records, record ∈ store.rows root.table) :
    List.Forall₂ (Resolution.start root).plan.Sliced (records.map fun record _ => record)
      (records.map Row.flat) := by
  rw [List.forall₂_map_left_iff, List.forall₂_map_right_iff, List.forall₂_same]
  intro record member index level placed
  cases index with
  | zero =>
      obtain rfl := Option.some.inj placed
      have placed : (Resolution.start root).plan.levels[0]? = some (.root root) := levels_zero _
      exact slice?_flat root (hasValue_of_mem grounded placed (stored record member))
  | succ index => cases placed

/-- Rows of a table, each a choice, are in the order in which they are listed. -/
theorem exhausts_flat {before : Record → Record → Prop} {records : List Record}
    (perm : records.Perm (store.rows root.table)) (sorted : records.Pairwise before) :
    (Resolution.start root).plan.Exhausts store registry before
      (records.map fun record _ => record) := by
  have covers : (Resolution.start root).Covers store registry root := Resolution.covers_start root
  refine ⟨?_, ?_, ?_⟩
  · intro choice member
    obtain ⟨record, there, rfl⟩ := List.mem_map.1 member
    obtain ⟨choice, fits, chosen⟩ := covers.sound (Keyed.empty.insert root.table record)
      (List.mem_map_of_mem (perm.mem_iff.1 there))
    have same := (chosen 0 (.root root) rfl).symm.trans (Keyed.get?_insert_self _ _ _)
    apply fits.congr
    intro index inside
    obtain rfl : index = 0 := Nat.lt_one_iff.1 inside
    exact (Option.some.inj same).symm
  · intro choice fits
    refine ⟨fun _ => choice 0,
      List.mem_map_of_mem (perm.mem_iff.2 (fits 0 (.root root) rfl).1), ?_⟩
    intro index inside
    obtain rfl : index = 0 := Nat.lt_one_iff.1 inside
    rfl
  · rw [List.pairwise_map]
    exact sorted.imp Or.inr

end Answers

/-- What is listed once is in the order of its places. -/
theorem exists_before_of_nodup {α : Type} {values : List α} (nodup : values.Nodup) :
    ∃ before : α → α → Prop,
      (∀ first second third, before first second → before second third → before first third) ∧
      (∀ value, ¬ before value value) ∧ values.Pairwise before := by
  classical
  refine ⟨fun left right => values.idxOf left < values.idxOf right,
    fun _ _ _ => Nat.lt_trans, fun _ => Nat.lt_irrefl _, ?_⟩
  rw [List.pairwise_iff_getElem]
  intro left right inLeft inRight less
  rw [nodup.idxOf_getElem left inLeft, nodup.idxOf_getElem right inRight]
  exact less

end EntityMapper
