import EntityMapper.Proofs.Plan.Joining

set_option autoImplicit false

/-! Choices of linked rows, by the branches of a plan: what is chosen below a level is independent
of everything that is not below it. -/

namespace EntityMapper.Plan

open Store

section Above

variable {plan : Plan} {ancestor other index child : Nat} {association : Association}

/-- Two levels above a third one are above one another. -/
theorem Above.total (first : plan.Above ancestor index) (second : plan.Above other index) :
    plan.Above ancestor other ∨ plan.Above other ancestor := by
  induction first with
  | self => exact Or.inr second
  | child above member ih =>
      cases second with
      | self => exact Or.inl (above.child member)
      | child aboveOther memberOther =>
          obtain rfl := parent_unique member memberOther
          exact ih aboveOther

/-- What is above a level but not the level itself is above its owners. -/
theorem Above.parent (above : plan.Above ancestor child)
    (member : (child, association) ∈ plan.children index) (different : child ≠ ancestor) :
    plan.Above ancestor index := by
  cases above with
  | self => exact absurd rfl different
  | child above again =>
      obtain rfl := parent_unique member again
      exact above

theorem not_above_parent (member : (child, association) ∈ plan.children index) :
    ¬ plan.Above child index := by
  intro above
  have bounds := child_bounds member
  have order := above.le
  omega

/-- Every level below another one is below one of its children. -/
theorem Above.exists_child (above : plan.Above ancestor index) (different : index ≠ ancestor) :
    ∃ below ∈ plan.children ancestor, plan.Above below.1 index := by
  induction above with
  | self => exact absurd rfl different
  | @child parent child association above member ih =>
      by_cases direct : parent = ancestor
      · subst direct
        exact ⟨_, member, Above.self _⟩
      · obtain ⟨below, there, aboveChild⟩ := ih direct
        exact ⟨below, there, aboveChild.child member⟩

/-- No level is below two children of one level. -/
theorem eq_of_above {first second : Nat × Association} (left : first ∈ plan.children ancestor)
    (right : second ∈ plan.children ancestor) (below : plan.Above first.1 index)
    (belowOther : plan.Above second.1 index) : first.1 = second.1 := by
  by_cases same : first.1 = second.1
  · exact same
  · rcases below.total belowOther with above | above
    · exact absurd (above.parent right (Ne.symm same)) (not_above_parent left)
    · exact absurd (above.parent left same) (not_above_parent right)

theorem association_unique {another : Association}
    (member : (child, association) ∈ plan.children index)
    (again : (child, another) ∈ plan.children other) : another = association := by
  obtain ⟨level, origin, placed, found, -, -, rfl⟩ := mem_children.1 member
  obtain ⟨_, _, placedAgain, foundAgain, -, -, rfl⟩ := mem_children.1 again
  cases placed.symm.trans placedAgain
  cases found.symm.trans foundAgain
  rfl

theorem pairwise_children (plan : Plan) (index : Nat) :
    (plan.children index).Pairwise fun left right => left.1 ≠ right.1 := by
  have places : plan.levels.zipIdx.Pairwise fun left right => left.2 ≠ right.2 := by
    rw [← List.pairwise_map (f := Prod.snd) (R := fun left right => left ≠ right),
      List.zipIdx_map_snd]
    exact List.nodup_range'
  rw [children, List.pairwise_filterMap]
  refine places.imp ?_
  intro left right different first chosen second chosenOther same
  obtain ⟨origin, -, kept⟩ := Option.bind_eq_some_iff.1 chosen
  obtain ⟨other, -, keptOther⟩ := Option.bind_eq_some_iff.1 chosenOther
  split at kept
  · split at keptOther
    · cases kept
      cases keptOther
      exact different same
    · cases keptOther
  · cases kept

end Above

section Choice

variable {store : Store} {registry : Registry} {plan : Plan}

/-- Rows that are chosen below a row make it complete. -/
theorem Fits.complete {choice : Nat → Record} (fits : plan.Fits store registry choice) :
    {index : Nat} → {owner : Level} → {belows : List (Nat × Association)} →
    {branches : List Branch} → plan.levels[index]? = some owner →
    (∀ below ∈ belows, below ∈ plan.children index) → plan.BearsAll belows branches →
      store.Complete registry owner.schema (choice index) branches
  | index, owner, belows, [], placed, listed, bears => trivial
  | index, owner, belows, .mk association target nested :: rest, placed, listed,
      ⟨below, others, equal, ⟨named, ⟨level, placedBelow, typed⟩, further⟩, bears⟩ => by
      subst equal
      subst named
      subst typed
      have member := listed below List.mem_cons_self
      obtain ⟨stored, linked⟩ := fits below.1 level placedBelow
      refine ⟨⟨choice below.1, stored, linked index _ owner member placed, ?_⟩, ?_⟩
      · exact fits.complete placedBelow (fun _ => id) further
      · exact fits.complete placed (fun other there => listed other (List.mem_cons_of_mem _ there))
          bears

open scoped Classical in
/-- What is chosen for a level and everything below it, beside what is chosen for the other
levels. -/
noncomputable def graft (plan : Plan) (root : Nat) (inside outside : Nat → Record) (index : Nat) :
    Record :=
  if plan.Above root index then inside index else outside index

section Graft

variable {root index child : Nat} {inside outside : Nat → Record}

theorem graft_of_above (above : plan.Above root index) :
    plan.graft root inside outside index = inside index := by
  unfold graft
  exact if_pos above

theorem graft_of_not_above (beside : ¬ plan.Above root index) :
    plan.graft root inside outside index = outside index := by
  unfold graft
  exact if_neg beside

/-- What is grafted has to be linked to the owners outside. -/
theorem fitsAt_graft {owner : Level} {association : Association}
    (member : (root, association) ∈ plan.children index)
    (placedOwner : plan.levels[index]? = some owner)
    (linked : ∀ target, plan.levels[root]? = some target →
      inside root ∈ store.rows target.schema.table ∧
        store.Linked registry owner.schema target.schema association.link (outside index)
          (inside root))
    (below : ∀ level, plan.Above root level → level ≠ root →
      plan.FitsAt store registry inside level) {level : Nat} (above : plan.Above root level) :
    plan.FitsAt store registry (plan.graft root inside outside) level := by
  by_cases here : level = root
  · subst here
    intro target placed
    obtain ⟨stored, linkedHere⟩ := linked target placed
    rw [graft_of_above above]
    refine ⟨stored, fun parent another other again placedOther => ?_⟩
    obtain rfl := parent_unique member again
    obtain rfl := association_unique member again
    cases placedOwner.symm.trans placedOther
    rw [graft_of_not_above (not_above_parent member)]
    exact linkedHere
  · apply (below level above here).congr (graft_of_above above)
    intro parent another again
    exact graft_of_above (above.parent again here)

theorem FitsAt.graft_outside (fits : plan.FitsAt store registry outside index)
    (beside : ¬ plan.Above root index) :
    plan.FitsAt store registry (plan.graft root inside outside) index := by
  apply fits.congr (graft_of_not_above beside)
  intro parent association member
  exact graft_of_not_above fun above => beside (above.child member)

end Graft

mutual

/-- From a row that reaches a branch, rows can be chosen for all levels of the branch. -/
theorem exists_choice_of_reaches {owner : EntitySchema} {source : Record}
    {below : Nat × Association} : {branch : Branch} → plan.Bears below branch →
    store.Reaches registry owner source branch →
    ∃ choice : Nat → Record,
      (∀ target, plan.levels[below.1]? = some target →
        choice below.1 ∈ store.rows target.schema.table ∧
          store.Linked registry owner target.schema below.2.link source (choice below.1)) ∧
      ∀ level, plan.Above below.1 level → level ≠ below.1 → plan.FitsAt store registry choice level
  | .mk association target nested, ⟨named, ⟨level, placed, typed⟩, bears⟩,
      ⟨record, stored, linked, complete⟩ => by
      subst named
      subst typed
      obtain ⟨choice, chosen, fits⟩ := exists_choice_of_complete placed
        (pairwise_children plan below.1) (fun _ => id) bears complete
      refine ⟨choice, ?_, ?_⟩
      · intro target placedTarget
        cases placed.symm.trans placedTarget
        rw [chosen]
        exact ⟨stored, linked⟩
      · intro index above different
        obtain ⟨further, there, aboveFurther⟩ := above.exists_child different
        exact fits further there index aboveFurther

theorem exists_choice_of_complete {index : Nat} {owner : Level} {source : Record}
    (placed : plan.levels[index]? = some owner) : {belows : List (Nat × Association)} →
    (belows.Pairwise fun left right => left.1 ≠ right.1) →
    (∀ below ∈ belows, below ∈ plan.children index) → {branches : List Branch} →
    plan.BearsAll belows branches → store.Complete registry owner.schema source branches →
    ∃ choice : Nat → Record, choice index = source ∧
      ∀ below ∈ belows, ∀ level, plan.Above below.1 level → plan.FitsAt store registry choice level
  | belows, apart, listed, [], empty, complete => by
      obtain rfl : belows = [] := empty
      exact ⟨fun _ => source, rfl, fun below member => absurd member List.not_mem_nil⟩
  | belows, apart, listed, branch :: rest, ⟨below, others, equal, first, bears⟩,
      ⟨reaches, complete⟩ => by
      subst equal
      have member := listed below List.mem_cons_self
      have memberOthers := fun other there => listed other (List.mem_cons_of_mem below there)
      obtain ⟨different, apartOthers⟩ := List.pairwise_cons.1 apart
      obtain ⟨inside, linked, fits⟩ := exists_choice_of_reaches first reaches
      obtain ⟨outside, chosenOutside, fitsOutside⟩ :=
        exists_choice_of_complete placed apartOthers memberOthers bears complete
      -- No level is below two of the children, so both choices can be put together.
      refine ⟨plan.graft below.1 inside outside, ?_, ?_⟩
      · rw [graft_of_not_above (not_above_parent member), chosenOutside]
      · intro other there level above
        rcases List.mem_cons.1 there with rfl | later
        · rw [← chosenOutside] at linked
          exact fitsAt_graft member placed linked fits above
        · apply (fitsOutside other later level above).graft_outside
          intro also
          exact different other later (eq_of_above member (memberOthers other later) also above)

end

/-- Every complete row of the roots is chosen. -/
theorem exists_fits_of_complete (ordered : plan.Ordered) {branches : List Branch}
    (bears : plan.BearsAll (plan.children 0) branches) {source : Record}
    (stored : source ∈ store.rows plan.root.schema.table)
    (complete : store.Complete registry plan.root.schema source branches) :
    ∃ choice, plan.Fits store registry choice ∧ choice 0 = source := by
  obtain ⟨choice, chosen, fits⟩ := exists_choice_of_complete plan.levels_zero
    (pairwise_children plan 0) (fun _ => id) bears complete
  refine ⟨choice, ?_, chosen⟩
  intro index
  by_cases root : index = 0
  · subst root
    intro target placed
    obtain rfl := Option.some.inj placed
    rw [chosen]
    refine ⟨stored, fun parent association owner member => ?_⟩
    have bounds := child_bounds member
    omega
  · by_cases inside : index < plan.levels.length
    · obtain ⟨below, there, above⟩ := (ordered.above_root inside).exists_child root
      exact fits below there index above
    · intro target placed
      have bound := (List.getElem?_eq_some_iff.1 placed).1
      omega

/-- Another complete row that is linked to the same owner is chosen beside everything that is not
below it. -/
theorem Fits.exists_graft {choice : Nat → Record} (fits : plan.Fits store registry choice)
    {index child : Nat} {association : Association}
    (member : (child, association) ∈ plan.children index) {owner target : Level}
    (placedOwner : plan.levels[index]? = some owner) (placed : plan.levels[child]? = some target)
    {nested : List Branch} (bears : plan.BearsAll (plan.children child) nested) {record : Record}
    (stored : record ∈ store.rows target.schema.table)
    (linked : store.Linked registry owner.schema target.schema association.link (choice index)
      record)
    (complete : store.Complete registry target.schema record nested) :
    ∃ other, plan.Fits store registry other ∧ other child = record ∧
      ∀ level, ¬ plan.Above child level → other level = choice level := by
  obtain ⟨inside, chosen, below⟩ := exists_choice_of_complete placed (pairwise_children plan child)
    (fun _ => id) bears complete
  refine ⟨plan.graft child inside choice, ?_, ?_, fun level => graft_of_not_above⟩
  · intro level
    by_cases above : plan.Above child level
    · refine fitsAt_graft member placedOwner ?_ ?_ above
      · intro another again
        cases placed.symm.trans again
        rw [chosen]
        exact ⟨stored, linked⟩
      · intro level aboveLevel different
        obtain ⟨further, there, aboveFurther⟩ := aboveLevel.exists_child different
        exact below further there level aboveFurther
    · exact (fits level).graft_outside above
  · rw [graft_of_above (Above.self child), chosen]

end Choice

end EntityMapper.Plan
