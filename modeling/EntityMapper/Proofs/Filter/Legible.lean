import EntityMapper.Proofs.Filter.Condition
import EntityMapper.Proofs.Filter.Terms

set_option autoImplicit false

/-! A written filter is legible and has no other fault than those of its columns. -/

namespace EntityMapper

open Fragment

/-- Words have no fault, so that joining fragments does not bring one. -/
theorem Fragment.sound_joined {separator : String} {fragments : List Fragment}
    (sound : ∀ fragment ∈ fragments, fragment.fault? = none) :
    (joined separator fragments).fault? = none := by
  induction fragments with
  | nil => rfl
  | cons first rest ih =>
      have here := sound first List.mem_cons_self
      have others := ih fun fragment member => sound fragment (List.mem_cons_of_mem _ member)
      cases rest with
      | nil => exact here
      | cons second more =>
          have between : (words separator).fault? = none := rfl
          rw [joined_cons_cons, fault?_append, fault?_append, here, between, others]
          rfl

@[simp] theorem Fragment.fault?_bindList (values : List Value) :
    (bindList values).fault? = none := by
  rw [bindList]
  split
  · rfl
  · apply sound_joined
    intro fragment member
    obtain ⟨value, -, rfl⟩ := List.mem_map.1 member
    rfl

@[simp] theorem Condition.fault?_fragment (column : ColumnRef) (condition : Condition) :
    (condition.fragment column).fault? = (Fragment.column column).fault? := by
  have words (text : String) : (Fragment.words text).fault? = none := rfl
  have bind (value : Value) : (Fragment.bind value).fault? = none := rfl
  cases condition <;>
    simp [fragment, comparison, range, membership, words, bind]

namespace Filter

theorem legible_parenthesised {fragment : Fragment} (legible : fragment.Legible) :
    (parenthesised fragment).Legible := by
  have opened := (legible_words (by decide)).append legible
    (Or.inl (by decide : (words "(").endsAtBorder = true))
  exact opened.append (legible_words (by decide)) (Or.inr (by decide))

theorem grouped_legible : Grouped Fragment.Legible where
  parentheses _ legible := legible_parenthesised legible
  all _ legible := legible_joined (legible_words (by decide)) (by decide) (by decide) legible
  any _ legible := legible_joined (legible_words (by decide)) (by decide) (by decide) legible

theorem grouped_sound : Grouped fun fragment => fragment.fault? = none where
  parentheses fragment sound := by
    have words (text : String) : (Fragment.words text).fault? = none := rfl
    rw [parenthesised, fault?_append, fault?_append, sound, words, words]
    rfl
  all _ sound := sound_joined sound
  any _ sound := sound_joined sound

theorem legible_condition (filter : Filter) : (joined " AND " (topTerms filter)).Legible :=
  grouped_legible.condition fun entry _ => Condition.legible_fragment entry.1 entry.2

/-- A clause stands between legible fragments, whatever its filter. -/
theorem legible_claused {start rest : Fragment} (first : start.Legible) (filter : Filter)
    (last : rest.Legible) (border : rest.startsAtBorder = true) :
    (start ++ clause filter ++ rest).Legible := by
  rw [clause]
  split
  · rw [append_empty]
    exact first.append last (Or.inr border)
  · have keyword := first.append (legible_words (by decide : wordsAreLegible " WHERE " = true))
      (Or.inr (by decide))
    have whole := keyword.append (legible_condition filter)
      (Or.inl (endsAtBorder_append _ (by decide)))
    rw [append_assoc] at whole
    exact whole.append last (Or.inr border)

/-- A clause that is written begins with its keyword. -/
theorem tokens_clause (filter : Filter) :
    (clause filter).tokens = [] ∨ ∃ rest, (clause filter).tokens = .word "WHERE" :: rest := by
  rw [clause]
  split
  · exact Or.inl rfl
  · exact Or.inr ⟨_, by rw [tokens_append]; rfl⟩

theorem sound_condition {filter : Filter}
    (sound : ∀ entry ∈ conditions filter, (Fragment.column entry.1).fault? = none) :
    (joined " AND " (topTerms filter)).fault? = none := by
  apply grouped_sound.condition
  intro entry member
  rw [Condition.fault?_fragment]
  exact sound entry member

end Filter

end EntityMapper
