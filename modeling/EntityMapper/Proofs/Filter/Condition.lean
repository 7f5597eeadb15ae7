import EntityMapper.Filter.Where
import EntityMapper.Proofs.Filter.Reading

set_option autoImplicit false

/-! The condition on a column is written so that it is read back as itself. -/

namespace EntityMapper

open Fragment

namespace Condition

theorem tokens_comparison (column : ColumnRef) (operator : String) (value : Value) :
    (comparison column operator value).tokens =
      (Fragment.column column).tokens ++ ((words operator).tokens ++ [.placeholder value]) := by
  rw [comparison, tokens_append, tokens_append, tokens_bind, List.append_assoc]

theorem tokens_range (column : ColumnRef) (operator : String) (least greatest : Value) :
    (range column operator least greatest).tokens =
      .mark '(' :: ((Fragment.column column).tokens ++ ((words operator).tokens ++
        [Token.placeholder least, .word "AND", .placeholder greatest])) ++ [Token.mark ')'] := by
  have opening : (words "(").tokens = [.mark '('] := rfl
  have closing : (words ")").tokens = [.mark ')'] := rfl
  have between : (words " AND ").tokens = [.word "AND"] := rfl
  simp only [range, tokens_append, tokens_bind, opening, closing, between, List.append_assoc,
    List.cons_append, List.nil_append]

theorem tokens_membership (column : ColumnRef) (operator : String) (values : List Value) :
    (membership column operator values).tokens =
      (Fragment.column column).tokens ++
        ((words operator).tokens ++ ((bindList values).tokens ++ [.mark ')'])) := by
  have closing : (words ")").tokens = [.mark ')'] := rfl
  rw [membership, tokens_append, tokens_append, tokens_append, closing, List.append_assoc,
    List.append_assoc]

/-- The placeholders of a list are read up to the parenthesis that closes it. -/
theorem values?_bindList (first : Value) (others : List Value) (rest : List (Token Value)) :
    Expression.values? ((joined ", " ((first :: others).map bind)).tokens ++ .mark ')' :: rest) =
      some (first :: others, rest) := by
  induction others generalizing first with
  | nil => rfl
  | cons second more ih =>
      have comma : (words ", ").tokens = [.mark ','] := rfl
      have following := ih second
      rw [List.map_cons, List.map_cons, joined_cons_cons, tokens_append, tokens_append,
        tokens_bind, comma, ← List.map_cons]
      simp only [List.cons_append, List.nil_append, Expression.values?, following,
        Option.map_some]

theorem list?_bindList (values : List Value) (rest : List (Token Value)) :
    Expression.list? ((bindList values).tokens ++ .mark ')' :: rest) = some (values, rest) := by
  cases values with
  | nil => rfl
  | cons first others =>
      have whole := values?_bindList first others rest
      rw [bindList, List.isEmpty_cons, if_neg Bool.false_ne_true]
      -- A list with a value starts with a placeholder, not with a word.
      cases others with
      | nil => exact whole
      | cons second more => exact whole

section Reading

variable (column : ColumnRef) {operator : String} {condition : Condition}

theorem isFactor_comparison (value : Value)
    (said : ∀ rest, Expression.condition?
      ((words operator).tokens ++ .placeholder value :: rest) = some (condition, rest)) :
    Expression.IsFactor (comparison column operator value).tokens (.atom column condition) := by
  rw [tokens_comparison]
  apply Expression.isFactor_of_condition
  intro rest
  rw [List.append_assoc, List.singleton_append, said]

/-- A range is read within its parentheses. -/
theorem isFactor_range (least greatest : Value)
    (said : ∀ rest, Expression.condition? ((words operator).tokens ++
      .placeholder least :: .word "AND" :: .placeholder greatest :: rest) =
        some (condition, rest)) :
    Expression.IsFactor (range column operator least greatest).tokens
      (.atom column condition) := by
  have inside : Expression.IsFactor ((Fragment.column column).tokens ++
      ((words operator).tokens ++ [Token.placeholder least, .word "AND", .placeholder greatest]))
      (.atom column condition) := by
    apply Expression.isFactor_of_condition
    intro rest
    rw [List.append_assoc]
    exact said rest
  rw [tokens_range]
  apply Expression.IsDisjunction.isFactor
  exact inside.isConjunction.isDisjunction (Expression.length_pos_of_isFactor inside)

theorem isFactor_membership (values : List Value) {member : List Value → Condition}
    (said : ∀ rest, Expression.condition? ((words operator).tokens ++ rest) =
      (Expression.list? rest).map fun read => (member read.1, read.2)) :
    Expression.IsFactor (membership column operator values).tokens
      (.atom column (member values)) := by
  rw [tokens_membership]
  apply Expression.isFactor_of_condition
  intro rest
  rw [List.append_assoc, List.append_assoc, List.singleton_append, said, list?_bindList,
    Option.map_some]

/-- Each condition is read back as itself. -/
theorem isFactor_fragment (condition : Condition) :
    Expression.IsFactor (condition.fragment column).tokens (.atom column condition) := by
  cases condition with
  | isNull =>
      rw [fragment, tokens_append]
      exact Expression.isFactor_of_condition fun rest => rfl
  | between least greatest => exact isFactor_range column least greatest fun rest => rfl
  | notBetween least greatest => exact isFactor_range column least greatest fun rest => rfl
  | inList values => exact isFactor_membership column values fun rest => rfl
  | notInList values => exact isFactor_membership column values fun rest => rfl
  | _ => exact isFactor_comparison column _ fun rest => rfl

theorem legible_comparison (value : Value) (legible : wordsAreLegible operator = true)
    (starts : (words operator).startsAtBorder = true)
    (ends : (words operator).endsAtBorder = true) :
    (comparison column operator value).Legible := by
  have left := (legible_column column).append (legible_words legible) (Or.inr starts)
  exact left.append (legible_bind value) (Or.inl (endsAtBorder_append _ ends))

theorem legible_range (least greatest : Value) (legible : wordsAreLegible operator = true)
    (starts : (words operator).startsAtBorder = true)
    (ends : (words operator).endsAtBorder = true) :
    (range column operator least greatest).Legible := by
  have opening : (words "(").Legible := legible_words (by decide)
  have closing : (words ")").Legible := legible_words (by decide)
  have between : (words " AND ").Legible := legible_words (by decide)
  have opened := opening.append (legible_column column) (Or.inl (by decide))
  have left := opened.append (legible_words legible) (Or.inr starts)
  have first := left.append (legible_bind least) (Or.inl (endsAtBorder_append _ ends))
  have middle := first.append between (Or.inr (by decide))
  have second := middle.append (legible_bind greatest)
    (Or.inl (endsAtBorder_append _ (by decide)))
  exact second.append closing (Or.inr (by decide))

theorem legible_bindList (values : List Value) : (bindList values).Legible := by
  rw [bindList]
  split
  · exact legible_words (by decide)
  · apply legible_joined (legible_words (by decide)) (by decide) (by decide)
    intro fragment member
    obtain ⟨value, -, rfl⟩ := List.mem_map.1 member
    exact legible_bind value

theorem legible_membership (values : List Value) (legible : wordsAreLegible operator = true)
    (starts : (words operator).startsAtBorder = true)
    (ends : (words operator).endsAtBorder = true) :
    (membership column operator values).Legible := by
  have left := (legible_column column).append (legible_words legible) (Or.inr starts)
  have listed := left.append (legible_bindList values) (Or.inl (endsAtBorder_append _ ends))
  exact listed.append (legible_words (by decide)) (Or.inr (by decide))

theorem legible_fragment (condition : Condition) : (condition.fragment column).Legible := by
  cases condition with
  | isNull => exact (legible_column column).append (legible_words (by decide)) (Or.inr (by decide))
  | between least greatest =>
      exact legible_range column least greatest (by decide) (by decide) (by decide)
  | notBetween least greatest =>
      exact legible_range column least greatest (by decide) (by decide) (by decide)
  | inList values => exact legible_membership column values (by decide) (by decide) (by decide)
  | notInList values => exact legible_membership column values (by decide) (by decide) (by decide)
  | _ => exact legible_comparison column _ (by decide) (by decide) (by decide)

end Reading

end Condition

end EntityMapper
