import EntityMapper.Proofs.Plan.Branches
import EntityMapper.Proofs.Plan.Label

set_option autoImplicit false

/-! The joins of a plan choose a row for each level: every joined row is a choice of linked rows,
and every choice of linked rows is joined. -/

namespace EntityMapper

namespace Row

@[simp] theorem value_qualified (row : Row) (label column : String) :
    row.value (.qualified label column) =
      ((row.get? label).map fun record => record.value column).getD .null := rfl

/-- What an insertion of another slice leaves alone. -/
theorem get?_insert_of_mem {labels : List String} {label other : String} (row : Row)
    (record : Record) (fresh : label ∉ labels) (member : other ∈ labels) :
    (row.insert label record).get? other = row.get? other := by
  apply Keyed.get?_insert_of_ne
  rintro rfl
  exact fresh member

end Row

namespace Store

theorem mem_join {store : Store} {rows : List Row} {join : Join} {row : Row} :
    row ∈ store.join rows join ↔ ∃ before ∈ rows, ∃ record ∈ store.rows join.table.table,
      row = before.insert join.table.label record ∧
        store.equal (row.value join.left) (row.value join.right) = true := by
  simp only [Store.join, List.mem_flatMap, List.mem_filter, List.mem_map]
  constructor
  · rintro ⟨before, there, ⟨record, member, rfl⟩, meets⟩
    exact ⟨before, there, record, member, rfl, meets⟩
  · rintro ⟨before, there, record, member, rfl, meets⟩
    exact ⟨before, there, ⟨record, member, rfl⟩, meets⟩

end Store

namespace Resolution

@[simp] theorem table_labelled (table label : String) : (labelled table label).table = table := by
  unfold labelled
  split <;> rfl

@[simp] theorem label_labelled (table label : String) : (labelled table label).label = label := by
  unfold labelled
  split
  · assumption
  · rfl

/-- Joins lead from rows that hold a record under one label to all rows of a table that are related
to it, and leave the slices under other labels alone. -/
structure LeadsTo (store : Store) (labels : List String) (origin table label : String)
    (related : Record → Record → Prop) (joins : List Join) : Prop where
  sound : ∀ (rows : List Row) (row : Row), row ∈ joins.foldl store.join rows →
    ∃ before ∈ rows, ∃ record ∈ store.rows table, row.get? label = some record ∧
      (∀ other ∈ labels, row.get? other = before.get? other) ∧
      ∀ source, before.get? origin = some source → related source record
  complete : ∀ (rows : List Row) (before : Row) (source record : Record), before ∈ rows →
    before.get? origin = some source → record ∈ store.rows table → related source record →
      ∃ row ∈ joins.foldl store.join rows, row.get? label = some record ∧
        ∀ other ∈ labels, row.get? other = before.get? other

section LeadsTo

variable {store : Store} {labels : List String} {origin table label : String}

theorem leadsTo_innerJoin (store : Store) {labels : List String} {origin label : String}
    (table left right : String) (known : origin ∈ labels) (fresh : label ∉ labels) :
    LeadsTo store labels origin table label
      (fun source record => store.equal (source.value left) (record.value right) = true)
      [innerJoin table label (.qualified origin left) (.qualified label right)] := by
  -- The row that is made holds both slices that the condition compares.
  have kept : ∀ (before : Row) (record : Record), ∀ other ∈ labels,
      (before.insert label record).get? other = before.get? other :=
    fun before record other member => Row.get?_insert_of_mem before record fresh member
  constructor
  · intro rows row member
    rw [List.foldl_cons, List.foldl_nil, Store.mem_join] at member
    simp only [innerJoin, table_labelled, label_labelled] at member
    obtain ⟨before, there, record, stored, rfl, equal⟩ := member
    refine ⟨before, there, record, stored, Keyed.get?_insert_self _ _ _, kept before record, ?_⟩
    intro source held
    rw [Row.value_qualified, Row.value_qualified, kept before record origin known, held,
      Keyed.get?_insert_self] at equal
    exact equal
  · intro rows before source record there held stored related
    refine ⟨before.insert label record, ?_, Keyed.get?_insert_self _ _ _, kept before record⟩
    rw [List.foldl_cons, List.foldl_nil, Store.mem_join]
    simp only [innerJoin, table_labelled, label_labelled]
    refine ⟨before, there, record, stored, rfl, ?_⟩
    rw [Row.value_qualified, Row.value_qualified, kept before record origin known, held,
      Keyed.get?_insert_self]
    exact related

/-- Joins that lead on from a table in between. -/
theorem LeadsTo.append {between betweenTable : String} {first second : Record → Record → Prop}
    {joins more : List Join}
    (leads : LeadsTo store labels origin betweenTable between first joins)
    (further : LeadsTo store (between :: labels) between table label second more) :
    LeadsTo store labels origin table label
      (fun source record => ∃ middle ∈ store.rows betweenTable,
        first source middle ∧ second middle record) (joins ++ more) := by
  constructor
  · intro rows row member
    rw [List.foldl_append] at member
    obtain ⟨middle, there, record, stored, held, kept, relates⟩ := further.sound _ row member
    obtain ⟨before, given, passed, listed, holds, keptBefore, leading⟩ :=
      leads.sound rows middle there
    refine ⟨before, given, record, stored, held, ?_, ?_⟩
    · intro other known
      rw [kept other (List.mem_cons_of_mem _ known), keptBefore other known]
    · intro source shown
      exact ⟨passed, listed, leading source shown, relates passed holds⟩
  · rintro rows before source record there held stored ⟨middle, listed, leading, relates⟩
    obtain ⟨between, joined, holds, kept⟩ :=
      leads.complete rows before source middle there held listed leading
    obtain ⟨row, given, shown, keptFurther⟩ :=
      further.complete _ between middle record joined holds stored relates
    refine ⟨row, by rwa [List.foldl_append], shown, ?_⟩
    intro other known
    rw [keptFurther other (List.mem_cons_of_mem _ known), kept other known]

end LeadsTo

variable {store : Store} {registry : Registry}

theorem LeadsTo.congr {labels : List String} {origin table label : String}
    {related other : Record → Record → Prop} {joins : List Join}
    (leads : LeadsTo store labels origin table label related joins)
    (same : ∀ source record, related source record ↔ other source record) :
    LeadsTo store labels origin table label other joins := by
  have equal : related = other := by
    funext source record
    exact propext (same source record)
  exact equal ▸ leads

/-- The two joins by way of a junction lead to the rows that some row of it links. -/
theorem leadsTo_junction (store : Store) {owner target : Level} {through label : String}
    {junction : Registry.Junction} {labels : List String}
    (found : registry.junction owner.schema.name target.schema.name through = .ok junction)
    (known : owner.label ∈ labels) (fresh : target.label ∉ labels) (unused : label ∉ labels)
    (apart : label ≠ target.label) :
    LeadsTo store labels owner.label target.schema.table target.label
      (store.Linked registry owner.schema target.schema (.belongsToMany through))
      ([innerJoin junction.schema.table label owner.keyColumn
          (.qualified label (junction.schema.storageName junction.ownerKey))] ++
        [innerJoin target.schema.table target.label
          (.qualified label (junction.schema.storageName junction.targetKey))
          target.keyColumn]) := by
  obtain ⟨schema, ownerKey, targetKey⟩ := Registry.junction_eq_ok found
  have freshAfter : target.label ∉ label :: labels := by
    intro member
    rcases List.mem_cons.1 member with same | other
    · exact apart same.symm
    · exact fresh other
  have toJunction := leadsTo_innerJoin store junction.schema.table
    owner.schema.primaryKey.storage (junction.schema.storageName junction.ownerKey) known unused
  have toTarget := leadsTo_innerJoin store target.schema.table
    (junction.schema.storageName junction.targetKey) target.schema.primaryKey.storage
    List.mem_cons_self freshAfter
  apply (toJunction.append toTarget).congr
  intro source record
  constructor
  · rintro ⟨middle, there, first, second⟩
    exact ⟨junction.schema, schema, junction.ownerKey, junction.targetKey, (ownerKey _).2 rfl,
      (targetKey _).2 rfl, middle, there, first, second⟩
  · rintro ⟨other, again, key, another, toOwner, toTarget, middle, there, first, second⟩
    cases schema.symm.trans again
    rw [(ownerKey key).1 toOwner] at first
    rw [(targetKey another).1 toTarget] at second
    exact ⟨middle, there, first, second⟩

/-- The joins of an association lead to the rows that it links. -/
theorem leadsTo_link (store : Store) {owner target : Level} {association : Association}
    {before resolution linked : Resolution}
    (success : resolution.link registry owner target association = .ok linked)
    (known : owner.label ∈ before.labels) (fresh : target.label ∉ before.labels)
    (reserved : resolution.labels = before.labels ++ [target.label]) :
    ∃ joins, linked.joins = resolution.joins ++ joins ∧
      (∀ label ∈ resolution.labels, label ∈ linked.labels) ∧
      LeadsTo store before.labels owner.label target.schema.table target.label
        (store.Linked registry owner.schema target.schema association.link) joins := by
  unfold link at success
  cases kind : association.link with
  | belongsTo key =>
      rw [kind] at success
      obtain rfl := Except.ok.inj success
      exact ⟨_, rfl, fun _ => id, leadsTo_innerJoin store _ _ _ known fresh⟩
  | hasOne key =>
      rw [kind] at success
      obtain rfl := Except.ok.inj success
      exact ⟨_, rfl, fun _ => id, leadsTo_innerJoin store _ _ _ known fresh⟩
  | hasMany key =>
      rw [kind] at success
      obtain rfl := Except.ok.inj success
      exact ⟨_, rfl, fun _ => id, leadsTo_innerJoin store _ _ _ known fresh⟩
  | belongsToMany through =>
      rw [kind] at success
      obtain ⟨junction, found, success⟩ := Outcome.bind_eq_ok success
      obtain rfl := Except.ok.inj success
      have unused : Label.fresh resolution.labels junction.schema.table
          resolution.plan.levels.length ∉ before.labels ++ [target.label] := by
        rw [← reserved]
        exact Label.fresh_not_mem _ _ _
      rw [List.mem_append, List.mem_singleton, not_or] at unused
      exact ⟨_, List.append_assoc _ _ _, fun label member => List.mem_append_left _ member,
        leadsTo_junction store found known fresh unused.1 unused.2⟩

end Resolution

namespace Plan

/-- What is chosen for a level is a row of its table, linked to what is chosen for its owners. -/
def FitsAt (store : Store) (registry : Registry) (plan : Plan) (choice : Nat → Record)
    (child : Nat) : Prop :=
  ∀ target, plan.levels[child]? = some target → choice child ∈ store.rows target.schema.table ∧
    ∀ index association owner, (child, association) ∈ plan.children index →
      plan.levels[index]? = some owner →
        store.Linked registry owner.schema target.schema association.link (choice index)
          (choice child)

/-- A choice of linked rows, one for each level. -/
def Fits (store : Store) (registry : Registry) (plan : Plan) (choice : Nat → Record) : Prop :=
  ∀ index, plan.FitsAt store registry choice index

/-- A joined row holds what is chosen for each level. -/
def Chosen (plan : Plan) (choice : Nat → Record) (row : Row) : Prop :=
  ∀ index level, plan.levels[index]? = some level → row.get? level.label = some (choice index)

section Append

variable {store : Store} {registry : Registry} {plan grown : Plan} {owner target : Level}
  {origin : Origin} {choice other : Nat → Record}

/-- What is chosen for a level and for its owners decides whether it fits. -/
theorem FitsAt.congr {child : Nat} (fits : plan.FitsAt store registry choice child)
    (here : other child = choice child)
    (above : ∀ index association, (child, association) ∈ plan.children index →
      other index = choice index) : plan.FitsAt store registry other child := by
  intro target placed
  obtain ⟨stored, linked⟩ := fits target placed
  rw [here]
  refine ⟨stored, fun index association owner member placedOwner => ?_⟩
  rw [above index association member]
  exact linked index association owner member placedOwner

theorem Fits.congr (fits : plan.Fits store registry choice)
    (same : ∀ index, index < plan.levels.length → other index = choice index) :
    plan.Fits store registry other := by
  intro child target placed
  have inside := (List.getElem?_eq_some_iff.1 placed).1
  apply (fits child).congr (same child inside) _ target placed
  intro index association member
  have bounds := child_bounds member
  exact same index (by omega)

theorem fits_append (levels : grown.levels = plan.levels ++ [target])
    (attached : target.origin = some origin) (above : plan.levels[origin.parent]? = some owner) :
    grown.Fits store registry choice ↔ plan.Fits store registry choice ∧
      choice plan.levels.length ∈ store.rows target.schema.table ∧
      store.Linked registry owner.schema target.schema origin.association.link
        (choice origin.parent) (choice plan.levels.length) := by
  have before := (List.getElem?_eq_some_iff.1 above).1
  have kept : ∀ index, index < plan.levels.length → grown.levels[index]? = plan.levels[index]? := by
    intro index less
    rw [levels, List.getElem?_append_left less]
  have last : grown.levels[plan.levels.length]? = some target := by
    rw [levels]
    exact List.getElem?_concat_length
  constructor
  · intro fits
    refine ⟨?_, ?_⟩
    · intro child level placed
      have inside := (List.getElem?_eq_some_iff.1 placed).1
      obtain ⟨stored, linked⟩ := fits child level (by rw [kept child inside, placed])
      refine ⟨stored, fun index association owner member placedOwner => ?_⟩
      have bounds := child_bounds member
      apply linked index association owner
      · exact (mem_children_append levels attached before).2 (Or.inl member)
      · rw [kept index (by omega), placedOwner]
    · obtain ⟨stored, linked⟩ := fits _ target last
      refine ⟨stored, linked origin.parent origin.association owner ?_ ?_⟩
      · exact (mem_children_append levels attached before).2 (Or.inr ⟨rfl, rfl, rfl⟩)
      · rw [kept _ before, above]
  · rintro ⟨fits, stored, linked⟩ child level placed
    have inside := (List.getElem?_eq_some_iff.1 placed).1
    rw [levels, List.length_append, List.length_singleton] at inside
    by_cases new : child = plan.levels.length
    · subst new
      cases last.symm.trans placed
      refine ⟨stored, fun index association other member placedOwner => ?_⟩
      rcases (mem_children_append levels attached before).1 member with old | ⟨rfl, -, rfl⟩
      · have bounds := child_bounds old
        omega
      · rw [kept _ before] at placedOwner
        cases above.symm.trans placedOwner
        exact linked
    · have less : child < plan.levels.length := by omega
      rw [kept child less] at placed
      obtain ⟨here, linkedHere⟩ := fits child level placed
      refine ⟨here, fun index association other member placedOwner => ?_⟩
      rcases (mem_children_append levels attached before).1 member with old | ⟨-, last, -⟩
      · have bounds := child_bounds old
        rw [kept index (by omega)] at placedOwner
        exact linkedHere index association other old placedOwner
      · exact absurd last new

theorem chosen_append {row : Row} (levels : grown.levels = plan.levels ++ [target]) :
    grown.Chosen choice row ↔
      plan.Chosen choice row ∧ row.get? target.label = some (choice plan.levels.length) := by
  unfold Chosen
  rw [levels]
  constructor
  · intro chosen
    constructor
    · intro index level placed
      apply chosen index level
      rw [List.getElem?_append_left (List.getElem?_eq_some_iff.1 placed).1]
      exact placed
    · exact chosen plan.levels.length target List.getElem?_concat_length
  · rintro ⟨chosen, last⟩ index level placed
    rw [List.getElem?_append] at placed
    by_cases inside : index < plan.levels.length
    · rw [if_pos inside] at placed
      exact chosen index level placed
    · rw [if_neg inside, List.getElem?_singleton] at placed
      by_cases here : index - plan.levels.length = 0
      · rw [if_pos here] at placed
        obtain rfl := Option.some.inj placed
        obtain rfl : index = plan.levels.length := by omega
        exact last
      · rw [if_neg here] at placed
        cases placed

end Append

end Plan

namespace Resolution

open Plan

/-- The joined rows are the choices of linked rows. -/
structure Covers (store : Store) (registry : Registry) (root : EntitySchema)
    (resolution : Resolution) : Prop where
  ordered : resolution.plan.Ordered
  labels : ∀ level ∈ resolution.plan.levels, level.label ∈ resolution.labels
  apart : resolution.plan.levels.Pairwise fun left right => left.label ≠ right.label
  sound : ∀ row ∈ store.joined (.named root.table) resolution.joins,
    ∃ choice, resolution.plan.Fits store registry choice ∧ resolution.plan.Chosen choice row
  complete : ∀ choice, resolution.plan.Fits store registry choice →
    ∃ row ∈ store.joined (.named root.table) resolution.joins, resolution.plan.Chosen choice row

variable {store : Store} {registry : Registry} {root : EntitySchema}

theorem covers_start (root : EntitySchema) : Covers store registry root (start root) := by
  have rows : ∀ row, row ∈ store.joined (.named root.table) (start root).joins ↔
      ∃ record ∈ store.rows root.table, Keyed.empty.insert root.table record = row :=
    fun row => List.mem_map
  have only : ∀ index level, (start root).plan.levels[index]? = some level →
      index = 0 ∧ level = .root root := by
    intro index level found
    rw [levels_start, List.getElem?_singleton] at found
    by_cases zero : index = 0
    · rw [if_pos zero] at found
      exact ⟨zero, (Option.some.inj found).symm⟩
    · rw [if_neg zero] at found
      cases found
  refine ⟨⟨rfl, ?_⟩, ?_, List.pairwise_singleton _ _, ?_, ?_⟩
  · intro index level found
    cases found
  · intro level member
    rw [List.mem_singleton.1 member]
    exact List.mem_singleton.2 rfl
  · intro row member
    obtain ⟨record, stored, rfl⟩ := (rows row).1 member
    refine ⟨fun _ => record, ?_, ?_⟩
    · intro index level found
      obtain ⟨-, rfl⟩ := only index level found
      refine ⟨stored, fun parent association owner member => ?_⟩
      have bounds := child_bounds member
      rw [levels_start, List.length_singleton] at bounds
      omega
    · intro index level found
      obtain ⟨-, rfl⟩ := only index level found
      exact Keyed.get?_insert_self _ _ _
  · intro choice fits
    refine ⟨_, (rows _).2 ⟨choice 0, (fits 0 _ rfl).1, rfl⟩, ?_⟩
    intro index level found
    obtain ⟨rfl, rfl⟩ := only index level found
    exact Keyed.get?_insert_self _ _ _

section Grown

variable {plan grown : Plan} {owner target : Level} {origin : Origin} {labels : List String}
  {joins : List Join} {rows : List Row}

/-- Rows that are choices of a plan are joined to choices of the plan with one level more. -/
theorem sound_append (levels : grown.levels = plan.levels ++ [target])
    (attached : target.origin = some origin) (above : plan.levels[origin.parent]? = some owner)
    (known : ∀ level ∈ plan.levels, level.label ∈ labels)
    (leads : LeadsTo store labels owner.label target.schema.table target.label
      (store.Linked registry owner.schema target.schema origin.association.link) joins)
    (sound : ∀ row ∈ rows, ∃ choice, plan.Fits store registry choice ∧ plan.Chosen choice row) :
    ∀ row ∈ joins.foldl store.join rows,
      ∃ choice, grown.Fits store registry choice ∧ grown.Chosen choice row := by
  intro row member
  obtain ⟨first, there, record, stored, held, kept, leading⟩ := leads.sound rows row member
  obtain ⟨choice, fits, chosen⟩ := sound first there
  let extended := Function.update choice plan.levels.length record
  have last : extended plan.levels.length = record := Function.update_self _ _ _
  have others : ∀ index, index < plan.levels.length → extended index = choice index :=
    fun index less => Function.update_of_ne (Nat.ne_of_lt less) _ _
  refine ⟨extended, (fits_append levels attached above).2 ⟨fits.congr others, ?_, ?_⟩,
    (chosen_append levels).2 ⟨?_, ?_⟩⟩
  · rw [last]
    exact stored
  · rw [last, others _ (List.getElem?_eq_some_iff.1 above).1]
    exact leading _ (chosen origin.parent owner above)
  · intro index level placed
    rw [others index (List.getElem?_eq_some_iff.1 placed).1,
      kept _ (known level (List.mem_of_getElem? placed))]
    exact chosen index level placed
  · rw [last]
    exact held

/-- If each choice of a plan is among rows, each choice with one level more is joined to them. -/
theorem complete_append (levels : grown.levels = plan.levels ++ [target])
    (attached : target.origin = some origin) (above : plan.levels[origin.parent]? = some owner)
    (known : ∀ level ∈ plan.levels, level.label ∈ labels)
    (leads : LeadsTo store labels owner.label target.schema.table target.label
      (store.Linked registry owner.schema target.schema origin.association.link) joins)
    (complete : ∀ choice, plan.Fits store registry choice →
      ∃ row ∈ rows, plan.Chosen choice row) {choice : Nat → Record}
    (fits : grown.Fits store registry choice) :
    ∃ row ∈ joins.foldl store.join rows, grown.Chosen choice row := by
  obtain ⟨fitsBefore, stored, linked⟩ := (fits_append levels attached above).1 fits
  obtain ⟨first, there, chosen⟩ := complete choice fitsBefore
  obtain ⟨row, member, held, kept⟩ := leads.complete rows first _ _ there
    (chosen _ _ above) stored linked
  refine ⟨row, member, (chosen_append levels).2 ⟨?_, held⟩⟩
  intro index level placed
  rw [kept _ (known level (List.mem_of_getElem? placed))]
  exact chosen index level placed

end Grown

/-- One association more, and one choice more. -/
theorem Covers.grows {before after : Resolution} {parent : Nat} {owner target : Level}
    {association : Association} (covers : Covers store registry root before)
    (grows : Grows registry before parent owner target association after) :
    Covers store registry root after := by
  have levels := grows.levels
  have inside := (List.getElem?_eq_some_iff.1 grows.placed).1
  have known := covers.labels owner (List.mem_of_getElem? grows.placed)
  have fresh : target.label ∉ before.labels := by
    rw [grows.label]
    exact Label.fresh_not_mem _ _ _
  obtain ⟨linked, linking, rfl⟩ := grows.linked
  have reserved : (before.reserve target.schema.table).2.labels =
      before.labels ++ [target.label] := by
    rw [grows.label]
    rfl
  obtain ⟨joins, joined, listed, leads⟩ := leadsTo_link store linking known fresh reserved
  have rows : store.joined (.named root.table) (linked.addLevel target).joins =
      joins.foldl store.join (store.joined (.named root.table) before.joins) := by
    have all : (linked.addLevel target).joins = before.joins ++ joins := joined
    rw [all, Store.joined, List.foldl_append]
    rfl
  have same : linked.plan = before.plan := (plan_link linking).trans (plan_reserve _ _)
  refine ⟨ordered_addLevel (same ▸ covers.ordered) grows.origin (same ▸ inside), ?_, ?_, ?_, ?_⟩
  · intro level member
    rw [levels] at member
    apply listed
    rw [reserved]
    rcases List.mem_append.1 member with old | new
    · exact List.mem_append_left _ (covers.labels level old)
    · rw [List.mem_singleton.1 new]
      exact List.mem_append_right _ List.mem_cons_self
  · rw [levels, List.pairwise_append]
    refine ⟨covers.apart, List.pairwise_singleton _ _, ?_⟩
    intro level there other new same
    rw [List.mem_singleton.1 new] at same
    exact fresh (same ▸ covers.labels level there)
  · rw [rows]
    exact sound_append levels grows.origin grows.placed covers.labels leads covers.sound
  · rw [rows]
    intro choice fits
    exact complete_append levels grows.origin grows.placed covers.labels leads covers.complete fits

theorem covers_ofPopulates {populates : List Populate} {resolution : Resolution}
    (success : ofPopulates registry root populates = .ok resolution) :
    Covers store registry root resolution :=
  followAll_induction (fun _ _ _ _ _ _ grows covers => Covers.grows covers grows) success rfl
    (covers_start root)

end Resolution

end EntityMapper
