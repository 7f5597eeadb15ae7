import EntityMapper.Proofs.Plan.Folding
import EntityMapper.Proofs.Plan.Resolution
import EntityMapper.Proofs.Schema.Registry

set_option autoImplicit false

/-! The levels of a plan are the branches that were asked for: below each level, one level for each
association that is followed from there on. -/

namespace EntityMapper

open Outcome

namespace Plan

mutual

/-- A level is that of the target of a branch, and the levels below it are as the branch says. -/
def Bears (plan : Plan) (below : Nat × Association) : Branch → Prop
  | .mk association target nested => below.2 = association ∧
      (∃ level, plan.levels[below.1]? = some level ∧ level.schema = target) ∧
      BearsAll plan (plan.children below.1) nested

def BearsAll (plan : Plan) (belows : List (Nat × Association)) : List Branch → Prop
  | [] => belows = []
  | branch :: rest => ∃ below others, belows = below :: others ∧ Bears plan below branch ∧
      BearsAll plan others rest

end

theorem Bears.association {plan : Plan} {below : Nat × Association} :
    {branch : Branch} → plan.Bears below branch → below.2 = branch.association
  | .mk _ _ _, bears => bears.1

/-- A plan that keeps the levels of another one, and what is below them from some level on. -/
structure Keeps (low : Nat) (plan grown : Plan) : Prop where
  levels : ∀ (index : Nat) (level : Level), plan.levels[index]? = some level →
    grown.levels[index]? = some level
  children : ∀ index, low ≤ index → index < plan.levels.length →
    grown.children index = plan.children index

mutual

theorem Bears.keeps {low : Nat} {plan grown : Plan} (keeps : Keeps low plan grown)
    {below : Nat × Association} (above : low ≤ below.1) :
    {branch : Branch} → plan.Bears below branch → grown.Bears below branch
  | .mk _ _ _, ⟨named, ⟨level, placed, typed⟩, nested⟩ => by
      have inside := (List.getElem?_eq_some_iff.1 placed).1
      refine ⟨named, ⟨level, keeps.levels _ _ placed, typed⟩, ?_⟩
      rw [keeps.children _ above inside]
      refine BearsAll.keeps keeps ?_ nested
      intro other member
      have bounds := child_bounds member
      omega

theorem BearsAll.keeps {low : Nat} {plan grown : Plan} (keeps : Keeps low plan grown)
    {belows : List (Nat × Association)} (above : ∀ below ∈ belows, low ≤ below.1) :
    {branches : List Branch} → plan.BearsAll belows branches → grown.BearsAll belows branches
  | [], empty => empty
  | _ :: _, ⟨below, others, equal, first, rest⟩ => by
      subst equal
      refine ⟨below, others, rfl, Bears.keeps keeps (above below List.mem_cons_self) first, ?_⟩
      exact BearsAll.keeps keeps (fun other member => above other (List.mem_cons_of_mem _ member))
        rest

end

theorem children_eq_nil {plan : Plan} {index : Nat} (beyond : plan.levels.length ≤ index) :
    plan.children index = [] := by
  apply List.eq_nil_iff_forall_not_mem.2
  intro below member
  have bounds := child_bounds member
  omega

/-- A level that is added is below its parent, and nothing else changes. -/
theorem children_append {plan grown : Plan} {level : Level} {origin : Origin}
    (levels : grown.levels = plan.levels ++ [level]) (attached : level.origin = some origin)
    (before : origin.parent < plan.levels.length) (index : Nat) :
    grown.children index = plan.children index ++
      if origin.parent = index then [(plan.levels.length, origin.association)] else [] := by
  rw [children, levels, List.zipIdx_append, List.filterMap_append, ← children]
  congr 1
  rw [Nat.zero_add, List.zipIdx_singleton, List.filterMap_cons, List.filterMap_nil, attached,
    Option.bind_some]
  by_cases here : origin.parent = index
  · rw [if_pos here, if_pos ⟨here, here ▸ before⟩]
  · rw [if_neg here, if_neg fun fits => here fits.1]

theorem mem_children_append {plan grown : Plan} {level : Level} {origin : Origin}
    (levels : grown.levels = plan.levels ++ [level]) (attached : level.origin = some origin)
    (before : origin.parent < plan.levels.length) {index child : Nat} {association : Association} :
    (child, association) ∈ grown.children index ↔ (child, association) ∈ plan.children index ∨
      origin.parent = index ∧ child = plan.levels.length ∧ association = origin.association := by
  rw [children_append levels attached before, List.mem_append]
  by_cases here : origin.parent = index
  · simp [here]
  · simp [here]

/-- The types of all levels are registered, and their associations are declared. -/
structure Declared (registry : Registry) (plan : Plan) : Prop where
  found : ∀ (index : Nat) (level : Level), plan.levels[index]? = some level →
    ∃ name, registry.get? name = some level.schema
  association : ∀ (index child : Nat) (association : Association) (owner target : Level),
    (child, association) ∈ plan.children index → plan.levels[index]? = some owner →
      plan.levels[child]? = some target → association ∈ owner.schema.associations ∧
        registry.get? association.target = some target.schema

end Plan

namespace Resolution

open Plan

variable {registry : Registry} {parent : Nat} {owner : Level} {resolution result : Resolution}

theorem mem_of_associationFor {owner : EntitySchema} {name : String} {association : Association}
    (success : associationFor owner name = .ok association) :
    association ∈ owner.associations := by
  unfold associationFor at success
  cases found : (owner.associationTo? name).or (owner.association? name) with
  | none =>
      rw [found] at success
      cases success
  | some other =>
      rw [found] at success
      obtain rfl := Except.ok.inj success
      rcases Option.or_eq_some_iff.1 found with first | ⟨-, second⟩
      · exact List.mem_of_find?_eq_some first
      · exact List.mem_of_find?_eq_some second

/-- One association is followed: joins lead to its targets, and their level is added. -/
structure Grows (registry : Registry) (before : Resolution) (parent : Nat) (owner target : Level)
    (association : Association) (after : Resolution) : Prop where
  placed : before.plan.levels[parent]? = some owner
  declared : association ∈ owner.schema.associations
  found : registry.get? association.target = some target.schema
  label : target.label = (before.reserve target.schema.table).1
  origin : target.origin = some ⟨parent, association⟩
  linked : ∃ linked, (before.reserve target.schema.table).2.link registry owner target association =
    .ok linked ∧ after = linked.addLevel target

theorem Grows.levels {before after : Resolution} {target : Level} {association : Association}
    (grows : Grows registry before parent owner target association after) :
    after.plan.levels = before.plan.levels ++ [target] := by
  obtain ⟨linked, linking, rfl⟩ := grows.linked
  have same : linked.plan = before.plan := (plan_link linking).trans (plan_reserve _ _)
  rw [← same]
  rfl

/-- Following an association is one step, and then following those nested in it. -/
theorem follow_grows {name : String} {nested : List Populate}
    (success : follow registry parent owner (.mk name nested) resolution = .ok result)
    (placed : resolution.plan.levels[parent]? = some owner) :
    ∃ association target next, associationFor owner.schema name = .ok association ∧
      Grows registry resolution parent owner target association next ∧
      next.plan.levels[resolution.plan.levels.length]? = some target ∧
      followAll registry resolution.plan.levels.length target nested next = .ok result := by
  obtain ⟨association, schema, linked, named, found, linking, rest⟩ := follow_eq_ok success
  have grows : Grows registry resolution parent owner
      ⟨(resolution.reserve schema.table).1, schema, some ⟨parent, association⟩⟩ association
      (linked.addLevel
        ⟨(resolution.reserve schema.table).1, schema, some ⟨parent, association⟩⟩) :=
    ⟨placed, mem_of_associationFor named, Registry.find_eq_ok found, rfl, rfl, linked, linking, rfl⟩
  refine ⟨association, _, _, named, grows, ?_, rest⟩
  rw [grows.levels]
  exact List.getElem?_concat_length

/-- Levels that are there stay where they are. -/
theorem placed_follow {populate : Populate}
    (success : follow registry parent owner populate resolution = .ok result) {index : Nat}
    {level : Level} (placed : resolution.plan.levels[index]? = some level) :
    result.plan.levels[index]? = some level := by
  obtain ⟨root, added, -, others⟩ := levels_follow success
  rw [Plan.levels, root, others, ← List.cons_append, ← Plan.levels, List.getElem?_append_left]
  · exact placed
  · exact (List.getElem?_eq_some_iff.1 placed).1

theorem placed_followAll {populates : List Populate}
    (success : followAll registry parent owner populates resolution = .ok result) {index : Nat}
    {level : Level} (placed : resolution.plan.levels[index]? = some level) :
    result.plan.levels[index]? = some level := by
  obtain ⟨root, added, others⟩ := levels_followAll success
  rw [Plan.levels, root, others, ← List.cons_append, ← Plan.levels, List.getElem?_append_left]
  · exact placed
  · exact (List.getElem?_eq_some_iff.1 placed).1

theorem length_follow {populate : Populate}
    (success : follow registry parent owner populate resolution = .ok result) :
    resolution.plan.levels.length < result.plan.levels.length := by
  obtain ⟨-, added, nonempty, others⟩ := levels_follow success
  have positive := List.length_pos_of_ne_nil nonempty
  rw [length_levels, length_levels, others, List.length_append]
  omega

mutual

/-- What every step keeps is kept by following an association and those nested in it. -/
theorem follow_induction {motive : Resolution → Prop}
    (step : ∀ before parent owner target association after,
      Grows registry before parent owner target association after → motive before → motive after)
    {parent : Nat} {owner : Level} : {populate : Populate} → {resolution result : Resolution} →
    (success : follow registry parent owner populate resolution = .ok result) →
    (placed : resolution.plan.levels[parent]? = some owner) → motive resolution → motive result
  | .mk name nested, resolution, result, success, placed, holds => by
      obtain ⟨association, target, next, -, grows, there, rest⟩ := follow_grows success placed
      exact followAll_induction step rest there (step _ _ _ _ _ _ grows holds)

theorem followAll_induction {motive : Resolution → Prop}
    (step : ∀ before parent owner target association after,
      Grows registry before parent owner target association after → motive before → motive after)
    {parent : Nat} {owner : Level} : {populates : List Populate} →
    {resolution result : Resolution} →
    (success : followAll registry parent owner populates resolution = .ok result) →
    (placed : resolution.plan.levels[parent]? = some owner) → motive resolution → motive result
  | [], resolution, result, success, placed, holds => by
      rw [followAll_nil success]
      exact holds
  | populate :: rest, resolution, result, success, placed, holds => by
      obtain ⟨next, first, others⟩ := followAll_cons success
      exact followAll_induction step others (placed_follow first placed)
        (follow_induction step first placed holds)

end

mutual

/-- Following an association adds one child, which bears its branch. -/
theorem bears_follow {parent : Nat} {owner : Level} : {populate : Populate} →
    {resolution result : Resolution} →
    (success : follow registry parent owner populate resolution = .ok result) →
    (placed : resolution.plan.levels[parent]? = some owner) →
    ∃ branch, Branch.ofPopulate registry owner.schema populate = .ok branch ∧
      (∀ index, index ≠ parent → index < resolution.plan.levels.length →
        result.plan.children index = resolution.plan.children index) ∧
      result.plan.children parent =
        resolution.plan.children parent ++ [(resolution.plan.levels.length, branch.association)] ∧
      result.plan.Bears (resolution.plan.levels.length, branch.association) branch
  | .mk name nested, resolution, result, success, placed => by
      obtain ⟨association, target, next, named, grows, there, rest⟩ := follow_grows success placed
      obtain ⟨branches, resolved, kept, belows, added, bears⟩ := bears_followAll rest there
      have inside := (List.getElem?_eq_some_iff.1 placed).1
      have children : ∀ index, next.plan.children index = resolution.plan.children index ++
          if parent = index then [(resolution.plan.levels.length, association)] else [] :=
        fun index => children_append grows.levels grows.origin inside index
      have longer : next.plan.levels.length = resolution.plan.levels.length + 1 := by
        rw [grows.levels, List.length_append, List.length_singleton]
      have target : registry.find association.target = .ok target.schema := by
        rw [Registry.find, grows.found, Option.elim_some]
      refine ⟨.mk association _ branches, ?_, ?_, ?_, rfl, ⟨_, placed_followAll rest there, rfl⟩,
        ?_⟩
      · rw [Branch.ofPopulate, named]
        change (registry.find association.target >>= _) = _
        rw [target]
        change (Branch.ofPopulates registry _ nested >>= _) = _
        rw [resolved]
        rfl
      · intro index different less
        rw [kept index (by omega) (by omega), children, if_neg (Ne.symm different),
          List.append_nil]
      · rw [kept parent (by omega) (by omega), children, if_pos rfl]
        rfl
      · have unused : next.plan.children resolution.plan.levels.length = [] := by
          rw [children, children_eq_nil (Nat.le_refl _), if_neg (by omega), List.append_nil]
        rw [unused, List.nil_append] at added
        rw [added]
        exact bears

theorem bears_followAll {parent : Nat} {owner : Level} : {populates : List Populate} →
    {resolution result : Resolution} →
    (success : followAll registry parent owner populates resolution = .ok result) →
    (placed : resolution.plan.levels[parent]? = some owner) →
    ∃ branches, Branch.ofPopulates registry owner.schema populates = .ok branches ∧
      (∀ index, index ≠ parent → index < resolution.plan.levels.length →
        result.plan.children index = resolution.plan.children index) ∧
      ∃ belows, result.plan.children parent = resolution.plan.children parent ++ belows ∧
        result.plan.BearsAll belows branches
  | [], resolution, result, success, placed => by
      rw [followAll_nil success]
      exact ⟨[], rfl, fun _ _ _ => rfl, [], (List.append_nil _).symm, rfl⟩
  | populate :: rest, resolution, result, success, placed => by
      obtain ⟨next, first, others⟩ := followAll_cons success
      obtain ⟨branch, resolved, kept, added, bears⟩ := bears_follow first placed
      obtain ⟨branches, resolvedRest, keptRest, belows, addedRest, bearsRest⟩ :=
        bears_followAll others (placed_follow first placed)
      have inside := (List.getElem?_eq_some_iff.1 placed).1
      have longer := length_follow first
      refine ⟨branch :: branches, ?_, ?_,
        (resolution.plan.levels.length, branch.association) :: belows, ?_, _, _, rfl, ?_,
        bearsRest⟩
      · rw [Branch.ofPopulates, resolved]
        change (Branch.ofPopulates registry _ rest >>= _) = _
        rw [resolvedRest]
        rfl
      · intro index different less
        rw [keptRest index different (by omega), kept index different less]
      · rw [addedRest, added, List.append_assoc, List.singleton_append]
      · -- What is followed later is added below the parent, which is above the first branch.
        have keeps : Keeps resolution.plan.levels.length next.plan result.plan := by
          refine ⟨fun index level found => placed_followAll others found, ?_⟩
          intro index above less
          exact keptRest index (by omega) less
        exact bears.keeps keeps (Nat.le_refl _)

end

theorem Grows.declared_after {before after : Resolution} {target : Level}
    {association : Association} (declared : before.plan.Declared registry)
    (grows : Grows registry before parent owner target association after) :
    after.plan.Declared registry := by
  have inside := (List.getElem?_eq_some_iff.1 grows.placed).1
  have kept : ∀ (index : Nat) (level : Level), after.plan.levels[index]? = some level →
      index < before.plan.levels.length → before.plan.levels[index]? = some level := by
    intro index level placed less
    rwa [grows.levels, List.getElem?_append_left less] at placed
  have last : ∀ (level : Level), after.plan.levels[before.plan.levels.length]? = some level →
      level = target := by
    intro level placed
    rw [grows.levels, List.getElem?_concat_length] at placed
    exact (Option.some.inj placed).symm
  have length : after.plan.levels.length = before.plan.levels.length + 1 := by
    rw [grows.levels, List.length_append, List.length_singleton]
  constructor
  · intro index level placed
    have bound := (List.getElem?_eq_some_iff.1 placed).1
    by_cases new : index = before.plan.levels.length
    · subst new
      rw [last level placed]
      exact ⟨_, grows.found⟩
    · exact declared.found index level (kept index level placed (by omega))
  · intro index child other first second member placedOwner placed
    rcases (mem_children_append grows.levels grows.origin inside).1 member with
      old | ⟨rfl, rfl, rfl⟩
    · have bounds := child_bounds old
      exact declared.association index child other first second old
        (kept index first placedOwner (by omega)) (kept child second placed bounds.2)
    · cases grows.placed.symm.trans (kept _ first placedOwner inside)
      rw [last second placed]
      exact ⟨grows.declared, grows.found⟩

theorem levels_start (root : EntitySchema) : (start root).plan.levels = [.root root] := rfl

/-- Below the roots are the branches that were asked for. -/
theorem bears_ofPopulates {root : EntitySchema} {populates : List Populate}
    (success : ofPopulates registry root populates = .ok resolution) :
    ∃ branches, Branch.ofPopulates registry root populates = .ok branches ∧
      resolution.plan.BearsAll (resolution.plan.children 0) branches := by
  obtain ⟨branches, resolved, -, belows, added, bears⟩ := bears_followAll success rfl
  have unused : (start root).plan.children 0 = [] := rfl
  rw [unused, List.nil_append] at added
  rw [added]
  exact ⟨branches, resolved, bears⟩

theorem declared_ofPopulates {root : EntitySchema} {name : String} {populates : List Populate}
    (found : registry.get? name = some root)
    (success : ofPopulates registry root populates = .ok resolution) :
    resolution.plan.Declared registry := by
  apply followAll_induction (motive := fun resolution => resolution.plan.Declared registry) _
    success rfl
  · constructor
    · intro index level placed
      rw [levels_start] at placed
      rw [List.mem_singleton.1 (List.mem_of_getElem? placed)]
      exact ⟨name, found⟩
    · intro index child association owner target member
      have bounds := child_bounds member
      rw [levels_start, List.length_singleton] at bounds
      omega
  · intro before parent owner target association after grows declared
    exact grows.declared_after declared

end Resolution

namespace Plan

variable {plan : Plan} {index : Nat} {branches : List Branch}

theorem BearsAll.exists_branch : {belows : List (Nat × Association)} → {branches : List Branch} →
    plan.BearsAll belows branches → ∀ below ∈ belows, ∃ branch ∈ branches, plan.Bears below branch
  | _, [], empty, below, member => by
      obtain rfl := empty
      exact absurd member List.not_mem_nil
  | _, branch :: _, ⟨_, _, equal, first, rest⟩, below, member => by
      subst equal
      rcases List.mem_cons.1 member with rfl | later
      · exact ⟨branch, List.mem_cons_self, first⟩
      · obtain ⟨other, there, bears⟩ := rest.exists_branch below later
        exact ⟨other, List.mem_cons_of_mem _ there, bears⟩

theorem BearsAll.pairwise : {belows : List (Nat × Association)} → {branches : List Branch} →
    plan.BearsAll belows branches → Branch.AllOnce branches →
      belows.Pairwise fun left right => left.2.name ≠ right.2.name
  | _, [], empty, _ => by
      obtain rfl := empty
      exact List.Pairwise.nil
  | _, branch :: _, ⟨below, others, equal, first, rest⟩, ⟨_, apart, once⟩ => by
      subst equal
      refine List.pairwise_cons.2 ⟨?_, rest.pairwise once⟩
      intro other member same
      obtain ⟨another, there, bears⟩ := rest.exists_branch other member
      apply apart another there
      rw [← bears.association, ← first.association, same]

theorem once_of_mem : {branches : List Branch} → Branch.AllOnce branches →
    ∀ branch ∈ branches, branch.Once
  | first :: _, ⟨here, _, others⟩, branch, member => by
      rcases List.mem_cons.1 member with rfl | later
      · exact here
      · exact once_of_mem others branch later

/-- Every level has branches of its own. -/
theorem Above.exists_branches {ancestor : Nat} (above : plan.Above ancestor index)
    (bears : plan.BearsAll (plan.children ancestor) branches) (once : Branch.AllOnce branches) :
    ∃ nested, plan.BearsAll (plan.children index) nested ∧ Branch.AllOnce nested := by
  induction above with
  | self => exact ⟨branches, bears, once⟩
  | child above member ih =>
      obtain ⟨nested, bearsHere, onceHere⟩ := ih
      obtain ⟨branch, there, below⟩ := bearsHere.exists_branch _ member
      cases branch with
      | mk association target further =>
          exact ⟨further, below.2.2, once_of_mem onceHere _ there⟩

/-- The roots are above every level. -/
theorem Ordered.above_root (ordered : plan.Ordered) (inside : index < plan.levels.length) :
    plan.Above 0 index := by
  induction index using Nat.strongRecOn with
  | ind index ih =>
      by_cases root : index = 0
      · subst root
        exact Above.self 0
      · obtain ⟨level, origin, placed, attached, before⟩ := ordered.origin (by omega) inside
        have below : (index, origin.association) ∈ plan.children origin.parent :=
          mem_children.2 ⟨level, origin, placed, attached, rfl, before, rfl⟩
        exact (ih origin.parent before (by omega)).child below

/-- Where no association is followed twice, what is attached has different names. -/
theorem distinctNames_of_once (ordered : plan.Ordered)
    (bears : plan.BearsAll (plan.children 0) branches) (once : Branch.AllOnce branches) :
    plan.DistinctNames := by
  intro index
  by_cases inside : index < plan.levels.length
  · obtain ⟨nested, here, onceHere⟩ := (ordered.above_root inside).exists_branches bears once
    exact here.pairwise onceHere
  · rw [children_eq_nil (by omega)]
    exact List.Pairwise.nil

end Plan

end EntityMapper
