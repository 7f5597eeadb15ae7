import EntityMapper.Proofs.Plan.Holding

set_option autoImplicit false

/-! Folding levels, the deepest first: each step adds to the owners what the rows of one level stand
for. -/

namespace EntityMapper.Plan

open Entity Slices

variable {plan : Plan} {rows : List Slices} {start : Nat → Nat} {depth index : Nat}

/-- Every level but that of the roots is attached to one before it. -/
theorem Ordered.origin (ordered : plan.Ordered) (positive : 0 < depth)
    (inside : depth < plan.levels.length) :
    ∃ level origin, plan.levels[depth]? = some level ∧ level.origin = some origin ∧
      origin.parent < depth := by
  obtain ⟨before, rfl⟩ : ∃ before, depth = before + 1 := ⟨depth - 1, by omega⟩
  rw [length_levels] at inside
  have less : before < plan.others.length := by omega
  have placed := List.getElem?_eq_getElem less
  obtain ⟨origin, found, parent⟩ := ordered.parents before _ placed
  refine ⟨_, origin, ?_, found, by omega⟩
  rw [levels, List.getElem?_cons_succ]
  exact placed

theorem drop_eq_cons {position : Nat} {first : Slices} (here : rows[position]? = some first) :
    rows.drop position = first :: rows.drop (position + 1) := by
  obtain ⟨inside, rfl⟩ := List.getElem?_eq_some_iff.1 here
  exact List.drop_eq_getElem_cons inside

theorem Spans.alike_of_mem_drop (spans : plan.Spans rows start) {first row : Slices}
    (here : rows[start index]? = some first) (there : row ∈ rows.drop (start index)) :
    Alike index first row := by
  obtain ⟨position, found⟩ := List.getElem?_of_mem there
  rw [List.getElem?_drop] at found
  exact spans.alike index (start index + position) first row (by omega) here found

/-- Folding a level changes only what has been attached for it. -/
theorem attachedRows_of_ne {child : Nat} (different : child ≠ depth) :
    attachedRows rows start depth index child =
      attachedRows rows start (depth + 1) index child := by
  rw [attachedRows, attachedRows]
  by_cases below : child < depth
  · rw [if_pos below, if_pos (by omega)]
  · rw [if_neg below, if_neg (by omega)]

theorem attachedRows_folded :
    attachedRows rows start depth index depth = rows.drop (start index) := by
  rw [attachedRows, if_neg (by omega)]

theorem attachedRows_unfolded : attachedRows rows start (depth + 1) index depth =
    stretch rows (start index) (start depth) := by
  rw [attachedRows, if_pos (by omega)]

/-- An instance at the last level that is not folded has all its rows attached. -/
theorem owner_deepest (entity : Entity) :
    plan.owner depth entity (attachedRows rows start (depth + 1) depth) =
      plan.node depth entity (rows.drop (start depth)) := by
  rw [node_eq_owner]
  apply owner_congr
  intro child association member
  have bounds := child_bounds member
  rw [attachedRows, if_neg (by omega)]

/-- A level that is attached elsewhere is folded without a change. -/
theorem HoldsAt.of_other {first : Slices} {slot : Option Entity}
    (holds : plan.HoldsAt rows start (depth + 1) index first slot)
    (other : ∀ association, (depth, association) ∉ plan.children index) :
    plan.HoldsAt rows start depth index first slot := by
  refine ⟨holds.absent, ?_⟩
  intro entity found
  obtain ⟨held, shown, bare, reached⟩ := holds.present entity found
  refine ⟨held, shown, bare, ?_⟩
  intro path
  rw [reached path]
  apply owner_congr
  intro child association member
  have different : child ≠ depth := fun same => other association (same ▸ member)
  rw [attachedRows_of_ne different]

section Step

variable (spans : plan.Spans rows start) (single : plan.OnePerPath rows)

include spans single

/-- The instance that is attached is what its rows stand for, where everything above is there. -/
theorem HoldsAt.eq_node {first top : Slices} {slot : Option Entity} {entity : Entity}
    {association : Association} (holds : plan.HoldsAt rows start (depth + 1) depth first slot)
    (member : (depth, association) ∈ plan.children index)
    (here : rows[start depth]? = some first) (there : rows[start index]? = some top)
    (path : plan.SamePath index top top) (found : first.at? depth = some entity) :
    slot = some (plan.node depth entity (rows.drop (start depth))) := by
  have bounds := child_bounds member
  have together := spans.together single there path
  have ordered := spans.monotone index depth (by omega)
  have inRows : first ∈ rows.drop (start index) := by
    rw [← stretch_append_drop rows ordered, drop_eq_cons here]
    exact List.mem_append_right _ List.mem_cons_self
  have read := (together.clean first inRows).read depth entity found
  have reached : plan.SamePath depth first first := by
    intro ancestor above
    cases above with
    | self => exact agree_iff.2 ⟨entity, entity, found, found, read.isSame_self⟩
    | child above again =>
        rw [parent_unique member again] at above
        exact together.paths first inRows first inRows ancestor above
  obtain ⟨held, shown, -, owned⟩ := holds.present entity found
  rw [shown, owned reached, owner_deepest]

variable (distinct : plan.DistinctNames)

include distinct

/-- What rows stand for at a level, up to the first row that is held there and from it on. -/
theorem joined?_attached_drop {association : Association} {first : Slices}
    (member : (depth, association) ∈ plan.children index) (here : rows[start index]? = some first)
    (path : plan.SamePath index first first) :
    joined? (plan.attached depth association (stretch rows (start index) (start depth)))
        (plan.attached depth association (rows.drop (start depth))) =
      plan.attached depth association (rows.drop (start index)) := by
  have bounds := child_bounds member
  have ordered := spans.monotone index depth (by omega)
  have together := spans.together single here path
  rw [← stretch_append_drop rows ordered] at together ⊢
  exact joined?_attached (merges distinct depth) together member

theorem HoldsAt.of_absent {first absent : Slices} {slot : Option Entity}
    (holds : plan.HoldsAt rows start (depth + 1) index first slot)
    (here : rows[start index]? = some first) (there : rows[start depth]? = some absent)
    (nothing : absent.at? depth = none) : plan.HoldsAt rows start depth index first slot := by
  refine ⟨holds.absent, ?_⟩
  intro entity found
  obtain ⟨held, shown, bare, reached⟩ := holds.present entity found
  refine ⟨held, shown, bare, ?_⟩
  intro path
  have lacking : ∀ row ∈ rows.drop (start depth), row.at? depth = none := by
    intro row inside
    exact at?_eq_none_of_alike (spans.alike_of_mem_drop there inside) nothing
  rw [reached path]
  apply owner_congr
  intro child association member
  by_cases same : child = depth
  · subst same
    rw [attachedRows_folded, attachedRows_unfolded,
      ← joined?_attached_drop spans single distinct member here path,
      joined?_attached_of_absent association _ lacking]
  · rw [attachedRows_of_ne same]

/-- The owner of the folded level gets the instance that was held there. -/
theorem HoldsAt.attach {top first : Slices} {slot : Option Entity} {child entity : Entity}
    {level : Level} {origin : Origin} (attachedBy : level.origin = some origin)
    (member : (depth, origin.association) ∈ plan.children index)
    (holds : plan.HoldsAt rows start (depth + 1) index top slot)
    (below : plan.HoldsAt rows start (depth + 1) depth first (some child))
    (there : rows[start index]? = some top) (here : rows[start depth]? = some first)
    (found : first.at? depth = some entity) :
    plan.HoldsAt rows start depth index top
      (slot.map (Assembly.attachAt level origin child)) := by
  refine ⟨fun absent => by rw [holds.absent absent, Option.map_none], ?_⟩
  intro owned shown
  obtain ⟨held, rfl, bare, reached⟩ := holds.present owned shown
  have change := sameBut_attachAt level origin child held
  refine ⟨_, rfl, change.bare.trans bare, ?_⟩
  intro path
  have firstIn : first ∈ rows := List.mem_of_getElem? here
  have read := (spans.clean first firstIn).read depth entity found
  have alone : plan.attached depth origin.association (rows.drop (start depth)) =
      some (attachedAlone origin.association child) := by
    have equal := below.eq_node spans single member here there path found
    rw [drop_eq_cons here] at equal ⊢
    rw [Option.some.inj equal]
    apply attached_of_agreeing origin.association found read
    intro row later
    have inside : row ∈ rows.drop (start depth) := drop_eq_cons here ▸ List.mem_cons_of_mem _ later
    obtain ⟨_, same, has⟩ := (spans.alike_of_mem_drop here inside).agree found
    cases found.symm.trans same
    exact has
  obtain rfl := reached path
  apply eq_owner_of_sameBut distinct member change
  · have before := related?_owner distinct member owned (attachedRows rows start (depth + 1) index)
    rw [related?_attachAt attachedBy child _ before, attachedRows_unfolded, ← alone,
      attachedRows_folded, joined?_attached_drop spans single distinct member there path]
  · exact fun other different => attachedRows_of_ne different

end Step

/-- Folding one level. -/
theorem holds_foldLevel (ordered : plan.Ordered) (distinct : plan.DistinctNames)
    (spans : plan.Spans rows start) (single : plan.OnePerPath rows) {held : Slices}
    (positive : 0 < depth) (inside : depth < plan.levels.length)
    (holds : plan.Holds rows start (depth + 1) held) :
    plan.Holds rows start depth (Assembly.foldLevel plan.levels held depth) := by
  obtain ⟨level, origin, placed, attachedBy, before⟩ := ordered.origin positive inside
  have member : (depth, origin.association) ∈ plan.children origin.parent :=
    mem_children.2 ⟨level, origin, placed, attachedBy, rfl, before, rfl⟩
  obtain ⟨first, here, firstIn⟩ := spans.exists_row depth
  obtain ⟨slot, heldHere, holdsHere⟩ := holds.slots depth first (by omega) inside here
  cases found : first.at? depth with
  | none =>
      -- Nothing is held at this level.
      have nothing := holdsHere.absent found
      subst nothing
      have same : Assembly.foldLevel plan.levels held depth = held := by
        rw [Assembly.foldLevel, heldHere]
      rw [same]
      refine ⟨holds.length, ?_, ?_⟩
      · intro index least less
        by_cases here : index = depth
        · rw [here, heldHere]
        · exact holds.folded index (by omega) less
      · intro index top less small there
        obtain ⟨slot, shown, holdsThere⟩ := holds.slots index top (by omega) small there
        exact ⟨slot, shown, holdsThere.of_absent spans single distinct there here found⟩
  | some entity =>
      obtain ⟨child, rfl, -, -⟩ := holdsHere.present entity found
      have changed : Assembly.foldLevel plan.levels held depth =
          (held.set depth none).modify origin.parent fun owner =>
            owner.map (Assembly.attachAt level origin child) := by
        rw [Assembly.foldLevel, heldHere, placed]
        simp only [attachedBy]
      rw [changed]
      refine ⟨by rw [List.length_modify, List.length_set, holds.length], ?_, ?_⟩
      · intro index least less
        rw [List.getElem?_modify_ne _ _ (by omega)]
        by_cases here : index = depth
        · rw [here, List.getElem?_set_self (by rw [holds.length]; exact inside)]
        · rw [List.getElem?_set_ne (by omega), holds.folded index (by omega) less]
      · intro index top less small there
        obtain ⟨slot, shown, holdsThere⟩ := holds.slots index top (by omega) small there
        have kept : (held.set depth none)[index]? = some slot := by
          rw [List.getElem?_set_ne (by omega), shown]
        by_cases parent : origin.parent = index
        · subst parent
          rw [List.getElem?_modify_eq, kept]
          refine ⟨_, rfl, ?_⟩
          exact holdsThere.attach spans single distinct attachedBy member holdsHere there here found
        · rw [List.getElem?_modify_ne _ _ parent]
          refine ⟨slot, kept, ?_⟩
          apply holdsThere.of_other
          intro association again
          exact parent (parent_unique again member)

theorem indicesFrom_eq_append {levels : List Level} {least : Nat} (less : least < levels.length) :
    Assembly.indicesFrom levels least = Assembly.indicesFrom levels (least + 1) ++ [least] := by
  obtain ⟨more, count⟩ : ∃ more, levels.length - least = more + 1 :=
    ⟨levels.length - least - 1, by omega⟩
  have others : levels.length - (least + 1) = more := by omega
  rw [Assembly.indicesFrom, Assembly.indicesFrom, count, others, List.range'_succ,
    List.reverse_cons]

/-- What each step of folding keeps for the level before it holds when all levels from one on are
folded. -/
theorem foldLevels_induction {levels : List Level} {kept : Nat → Slices → Prop} {held : Slices}
    (start : kept levels.length held) {least : Nat}
    (step : ∀ depth next, least ≤ depth → depth < levels.length → kept (depth + 1) next →
      kept depth (Assembly.foldLevel levels next depth))
    (inside : least ≤ levels.length) :
    kept least ((Assembly.indicesFrom levels least).foldl (Assembly.foldLevel levels) held) := by
  by_cases last : least = levels.length
  · rw [Assembly.indicesFrom, last, Nat.sub_self]
    exact start
  · have less : least < levels.length := by omega
    have deeper : kept (least + 1)
        ((Assembly.indicesFrom levels (least + 1)).foldl (Assembly.foldLevel levels) held) :=
      foldLevels_induction start (fun depth next above => step depth next (by omega)) less
    rw [indicesFrom_eq_append less, List.foldl_append]
    exact step least _ (Nat.le_refl _) less deeper
termination_by levels.length - least
decreasing_by omega

/-- Folding the levels from one on. -/
theorem holds_foldLevels (ordered : plan.Ordered) (distinct : plan.DistinctNames)
    (spans : plan.Spans rows start) (single : plan.OnePerPath rows) {held : Slices}
    (holds : plan.Holds rows start plan.levels.length held) (least : Nat) (positive : 0 < least)
    (inside : least ≤ plan.levels.length) :
    plan.Holds rows start least
      ((Assembly.indicesFrom plan.levels least).foldl (Assembly.foldLevel plan.levels) held) :=
  foldLevels_induction holds
    (fun _ _ above less => holds_foldLevel ordered distinct spans single (by omega) less) inside

end EntityMapper.Plan
