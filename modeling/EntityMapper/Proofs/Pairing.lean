import Mathlib.Data.List.Forall2

set_option autoImplicit false

/-! Lists that are related item by item. -/

namespace EntityMapper.Pairing

variable {α β : Type} {relation : α → β → Prop} {lefts : List α} {rights : List β}

theorem exists_getElem?_right (related : List.Forall₂ relation lefts rights) {index : Nat}
    {left : α} (found : lefts[index]? = some left) :
    ∃ right, rights[index]? = some right ∧ relation left right := by
  induction related generalizing index with
  | nil => cases found
  | cons first rest ih =>
      cases index with
      | zero =>
          obtain rfl := Option.some.inj found
          exact ⟨_, rfl, first⟩
      | succ index => exact ih found

theorem exists_getElem?_left (related : List.Forall₂ relation lefts rights) {index : Nat}
    {right : β} (found : rights[index]? = some right) :
    ∃ left, lefts[index]? = some left ∧ relation left right :=
  exists_getElem?_right related.flip found

theorem exists_left (related : List.Forall₂ relation lefts rights) {right : β}
    (member : right ∈ rights) : ∃ left ∈ lefts, relation left right := by
  obtain ⟨index, found⟩ := List.getElem?_of_mem member
  obtain ⟨left, there, here⟩ := exists_getElem?_left related found
  exact ⟨left, List.mem_of_getElem? there, here⟩

theorem exists_right (related : List.Forall₂ relation lefts rights) {left : α}
    (member : left ∈ lefts) : ∃ right ∈ rights, relation left right :=
  exists_left related.flip member

theorem exists_append {following : List α}
    (related : List.Forall₂ relation (lefts ++ following) rights) :
    ∃ first second, rights = first ++ second ∧ List.Forall₂ relation lefts first ∧
      List.Forall₂ relation following second := by
  induction lefts generalizing rights with
  | nil => exact ⟨[], rights, rfl, .nil, related⟩
  | cons left rest ih =>
      obtain ⟨right, others, here, behind, rfl⟩ := List.forall₂_cons_left_iff.1 related
      obtain ⟨first, second, rfl, leading, trailing⟩ := ih behind
      exact ⟨right :: first, second, rfl, .cons here leading, trailing⟩

/-- What holds of all pairs of a list holds of their partners. -/
theorem pairwise {ordered : α → α → Prop} (related : List.Forall₂ relation lefts rights)
    (sorted : lefts.Pairwise ordered) :
    rights.Pairwise fun first second => ∃ left ∈ lefts, ∃ right ∈ lefts,
      relation left first ∧ relation right second ∧ ordered left right := by
  induction related with
  | nil => exact List.Pairwise.nil
  | @cons left first lefts rights here rest ih =>
      obtain ⟨leads, others⟩ := List.pairwise_cons.1 sorted
      refine List.pairwise_cons.2 ⟨?_, (ih others).imp ?_⟩
      · intro second member
        obtain ⟨right, there, matching⟩ := exists_left rest member
        exact ⟨left, List.mem_cons_self, right, List.mem_cons_of_mem _ there, here, matching,
          leads right there⟩
      · rintro first second ⟨one, there, two, also, facts⟩
        exact ⟨one, List.mem_cons_of_mem _ there, two, List.mem_cons_of_mem _ also, facts⟩

/-- Some of the items on the right have their partners on the left, in the same order. -/
theorem exists_sublist (related : List.Forall₂ relation lefts rights) {chosen : List β}
    (listed : chosen.Sublist rights) :
    ∃ partners, partners.Sublist lefts ∧ List.Forall₂ relation partners chosen := by
  induction related generalizing chosen with
  | nil =>
      obtain rfl := List.sublist_nil.1 listed
      exact ⟨[], List.Sublist.refl _, List.Forall₂.nil⟩
  | @cons left right lefts rights here rest ih =>
      cases listed with
      | cons _ listed =>
          obtain ⟨partners, inside, others⟩ := ih listed
          exact ⟨partners, inside.cons left, others⟩
      | cons_cons _ listed =>
          obtain ⟨partners, inside, others⟩ := ih listed
          exact ⟨left :: partners, inside.cons_cons left, List.Forall₂.cons here others⟩

end EntityMapper.Pairing
