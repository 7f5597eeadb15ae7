import Mathlib.Data.List.SplitBy

set_option autoImplicit false

/-! Lists in which equal keys stand together are cut into one block for each key. -/

namespace EntityMapper.Blocks

variable {α β : Type} {key : α → β} {before : β → β → Prop} {same : α → α → Bool}
  {items : List α}

theorem mem_of_mem_block {block : List α} (member : block ∈ items.splitBy same) {item : α}
    (inside : item ∈ block) : item ∈ items := by
  rw [← List.flatten_splitBy same items]
  exact List.mem_flatten.2 ⟨block, member, inside⟩

theorem exists_block (same : α → α → Bool) {item : α} (member : item ∈ items) :
    ∃ block ∈ items.splitBy same, item ∈ block := by
  rw [← List.flatten_splitBy same items] at member
  exact List.mem_flatten.1 member

/-- All items of a block have the same key. -/
theorem key_eq_of_mem_block
    (agree : ∀ left ∈ items, ∀ right ∈ items, same left right = true ↔ key left = key right)
    {block : List α} (member : block ∈ items.splitBy same) {left right : α} (first : left ∈ block)
    (second : right ∈ block) : key left = key right := by
  have chain : block.IsChain fun left right => key left = key right := by
    refine (List.isChain_of_mem_splitBy member).imp_of_mem_imp ?_
    intro left right inLeft inRight alike
    exact (agree left (mem_of_mem_block member inLeft) right (mem_of_mem_block member inRight)).1
      alike
  have transitive : Trans (fun left right : α => key left = key right)
      (fun left right => key left = key right) fun left right => key left = key right :=
    ⟨Eq.trans⟩
  have alike := chain.pairwise
  have symmetric : Std.Symm fun left right : α => key left = key right :=
    ⟨fun _ _ => Eq.symm⟩
  by_cases equal : left = right
  · rw [equal]
  · exact alike.forall first second equal

/-- Blocks that meet hold different keys. -/
theorem isChain_apart
    (agree : ∀ left ∈ items, ∀ right ∈ items, same left right = true ↔ key left = key right) :
    (items.splitBy same).IsChain fun first second => second ≠ [] ∧
      ∀ left ∈ first, ∀ right ∈ second, key left ≠ key right := by
  have chain := List.isChain_iff_getElem.1 (List.isChain_getLast_head_splitBy same items)
  rw [List.isChain_iff_getElem]
  intro position inside
  obtain ⟨filled, more, different⟩ := chain position inside
  have listed : (items.splitBy same)[position] ∈ items.splitBy same := List.getElem_mem _
  have listedNext : (items.splitBy same)[position + 1] ∈ items.splitBy same := List.getElem_mem _
  have last := List.getLast_mem filled
  have next := List.head_mem more
  -- The blocks differ where they meet, and so do all their items.
  refine ⟨more, fun left inFirst right inSecond equal => ?_⟩
  rw [← Bool.not_eq_true, agree _ (mem_of_mem_block listed last) _
    (mem_of_mem_block listedNext next)] at different
  apply different
  rw [key_eq_of_mem_block agree listed last inFirst, equal,
    key_eq_of_mem_block agree listedNext inSecond next]

/-- Blocks stand in the order of their keys. -/
theorem pairwise_blocks
    (agree : ∀ left ∈ items, ∀ right ∈ items, same left right = true ↔ key left = key right)
    (sorted : items.Pairwise fun left right => key left = key right ∨ before (key left) (key right))
    (transitive : ∀ {first second third : β}, before first second → before second third →
      before first third) :
    (items.splitBy same).Pairwise fun first second =>
      ∀ left ∈ first, ∀ right ∈ second, before (key left) (key right) := by
  have ordered := sorted
  rw [← List.flatten_splitBy same items, List.pairwise_flatten] at ordered
  have chain := List.isChain_iff_getElem.1 (isChain_apart agree)
  have steps : (items.splitBy same).IsChain fun first second => second ≠ [] ∧
      ∀ left ∈ first, ∀ right ∈ second, before (key left) (key right) := by
    rw [List.isChain_iff_getElem]
    intro position inside
    obtain ⟨more, apart⟩ := chain position inside
    refine ⟨more, fun left inFirst right inSecond => ?_⟩
    rcases List.pairwise_iff_getElem.1 ordered.2 position (position + 1) (by omega) inside
      (by omega) left inFirst right inSecond with equal | less
    · exact absurd equal (apart left inFirst right inSecond)
    · exact less
  have chained : Trans
      (fun first second : List α => second ≠ [] ∧
        ∀ left ∈ first, ∀ right ∈ second, before (key left) (key right))
      (fun first second => second ≠ [] ∧
        ∀ left ∈ first, ∀ right ∈ second, before (key left) (key right))
      (fun first second => second ≠ [] ∧
        ∀ left ∈ first, ∀ right ∈ second, before (key left) (key right)) := by
    refine ⟨fun {first second third} leads follows => ⟨follows.1, ?_⟩⟩
    intro left inFirst right inThird
    obtain ⟨middle, inSecond⟩ := List.exists_mem_of_ne_nil second leads.1
    have before := leads.2 left inFirst middle inSecond
    exact transitive before (follows.2 middle inSecond right inThird)
  exact steps.pairwise.imp fun leads => leads.2

/-- Lists that meet hold different keys, and all items with one key stand together. Then all lists
hold different keys. -/
theorem pairwise_of_isChain {blocks : List (List α)}
    (chain : blocks.IsChain fun first second => second ≠ [] ∧
      ∀ left ∈ first, ∀ right ∈ second, key left ≠ key right)
    (together : ∀ left middle right, [left, middle, right].Sublist blocks.flatten →
      key left = key right → key middle = key left) :
    blocks.Pairwise fun first second => ∀ left ∈ first, ∀ right ∈ second, key left ≠ key right := by
  induction blocks with
  | nil => exact List.Pairwise.nil
  | cons first rest ih =>
      refine List.pairwise_cons.2 ⟨?_, ih chain.tail fun left middle right listed =>
        together left middle right (listed.trans (List.sublist_append_right _ _))⟩
      intro block member left inFirst right inBlock equal
      cases rest with
      | nil => cases member
      | cons second others =>
          obtain ⟨⟨filled, apart⟩, -⟩ := List.isChain_cons_cons.1 chain
          rcases List.mem_cons.1 member with rfl | later
          · exact apart left inFirst right inBlock equal
          · -- An item of the second list would stand between the two.
            obtain ⟨middle, inSecond⟩ := List.exists_mem_of_ne_nil second filled
            have last : right ∈ others.flatten := List.mem_flatten.2 ⟨block, later, inBlock⟩
            have listed : [left, middle, right].Sublist (first ++ (second ++ others.flatten)) :=
              (List.singleton_sublist.2 inFirst).append
                ((List.singleton_sublist.2 inSecond).append (List.singleton_sublist.2 last))
            exact apart left inFirst middle inSecond (together left middle right listed equal).symm

/-- Where all items with one key stand together, there is one block for each key. -/
theorem pairwise_apart
    (agree : ∀ left ∈ items, ∀ right ∈ items, same left right = true ↔ key left = key right)
    (together : ∀ left middle right, [left, middle, right].Sublist items →
      key left = key right → key middle = key left) :
    (items.splitBy same).Pairwise fun first second =>
      ∀ left ∈ first, ∀ right ∈ second, key left ≠ key right := by
  apply pairwise_of_isChain (isChain_apart agree)
  rw [List.flatten_splitBy]
  exact together

/-- A block holds all items with its key. -/
theorem mem_block_iff
    (agree : ∀ left ∈ items, ∀ right ∈ items, same left right = true ↔ key left = key right)
    (sorted : items.Pairwise fun left right => key left = key right ∨ before (key left) (key right))
    (transitive : ∀ {first second third : β}, before first second → before second third →
      before first third)
    (irreflexive : ∀ value, ¬ before value value) {block : List α}
    (member : block ∈ items.splitBy same) {first : α} (inside : first ∈ block) {item : α}
    (listed : item ∈ items) : item ∈ block ↔ key item = key first := by
  constructor
  · intro there
    exact key_eq_of_mem_block agree member there inside
  · intro equal
    obtain ⟨other, memberOther, there⟩ := exists_block same listed
    by_cases here : other = block
    · exact here ▸ there
    · have apart : (items.splitBy same).Pairwise fun left right =>
          (∀ one ∈ left, ∀ two ∈ right, before (key one) (key two)) ∨
            ∀ one ∈ right, ∀ two ∈ left, before (key one) (key two) :=
        (pairwise_blocks agree sorted transitive).imp Or.inl
      have symmetric : Std.Symm fun left right : List α =>
          (∀ one ∈ left, ∀ two ∈ right, before (key one) (key two)) ∨
            ∀ one ∈ right, ∀ two ∈ left, before (key one) (key two) := ⟨fun _ _ => Or.symm⟩
      rcases apart.forall memberOther member here with leads | follows
      · have impossible := leads item there first inside
        rw [equal] at impossible
        exact absurd impossible (irreflexive _)
      · have impossible := follows first inside item there
        rw [equal] at impossible
        exact absurd impossible (irreflexive _)

end EntityMapper.Blocks
