import EntityMapper.Proofs.Filter.Legible

set_option autoImplicit false

/-! A written filter means what the filter means. Every term of a level is a factor, except for an
alternative that stands alone in its level; a group is a factor by its parentheses. -/

namespace EntityMapper

open Fragment

namespace Filter

/-- What a part of a filter comes to; none if it has no condition. -/
abbrev Meaning := Assignment → Option Truth

/-- Terms that are read as factors, and what their values are combined to. -/
inductive Combined (combine : Truth → Truth → Truth) : List Fragment → Meaning → Prop where
  | nil {meaning : Meaning} (nothing : ∀ truth, meaning truth = none) : Combined combine [] meaning
  | cons {term : Fragment} {rest : List Fragment} {expression : Expression}
      {following meaning : Meaning} (factor : Expression.IsFactor term.tokens expression)
      (others : Combined combine rest following)
      (value : ∀ truth,
        meaning truth = Option.merge combine (some (expression.value truth)) (following truth)) :
      Combined combine (term :: rest) meaning

namespace Combined

variable {combine : Truth → Truth → Truth} {left right : List Fragment}
  {first second meaning : Meaning}

theorem append (assoc : ∀ a b c, combine (combine a b) c = combine a (combine b c))
    (reads : Combined combine left first) (others : Combined combine right second)
    (value : ∀ truth, meaning truth = Option.merge combine (first truth) (second truth)) :
    Combined combine (left ++ right) meaning := by
  induction reads generalizing meaning with
  | nil nothing =>
      have same : meaning = second := by
        funext truth
        rw [value, nothing, Option.merge_none_left]
      rw [same]
      exact others
  | @cons term rest expression following first factor reads written ih =>
      have joined : Combined combine (rest ++ right) fun truth =>
          Option.merge combine (following truth) (second truth) := ih fun truth => rfl
      apply Combined.cons factor joined
      intro truth
      rw [value, written]
      cases following truth with
      | none => cases second truth <;> rfl
      | some value => cases second truth <;> simp [assoc]

theorem singleton {term : Fragment} {expression : Expression}
    (factor : Expression.IsFactor term.tokens expression)
    (value : ∀ truth, meaning truth = some (expression.value truth)) :
    Combined combine [term] meaning := by
  have nothing : Combined combine [] fun _ => none := .nil fun truth => rfl
  apply Combined.cons factor nothing
  intro truth
  rw [value, Option.merge_none_right]

/-- Factors with `AND` between are read as a conjunction. -/
theorem isConjunction_joined {terms : List Fragment} (reads : Combined .both terms meaning)
    (occupied : terms ≠ []) :
    ∃ expression, Expression.IsConjunction (joined " AND " terms).tokens expression ∧
      0 < (joined " AND " terms).tokens.length ∧
      ∀ truth, meaning truth = some (expression.value truth) := by
  induction reads with
  | nil nothing => exact absurd rfl occupied
  | @cons term rest expression following meaning factor reads value ih =>
      have nonempty := Expression.length_pos_of_isFactor factor
      cases rest with
      | nil =>
          refine ⟨expression, factor.isConjunction, nonempty, ?_⟩
          intro truth
          cases reads with
          | nil nothing => rw [value, nothing, Option.merge_none_right]
      | cons second others =>
          obtain ⟨tail, conjunction, -, same⟩ := ih (List.cons_ne_nil _ _)
          have written : (joined " AND " (term :: second :: others)).tokens =
              term.tokens ++ .word "AND" :: (joined " AND " (second :: others)).tokens := by
            have separator : (words " AND ").tokens = [.word "AND"] := rfl
            rw [joined_cons_cons, tokens_append, tokens_append, separator, List.append_assoc,
              List.singleton_append]
          refine ⟨.both expression tail, ?_, ?_, ?_⟩
          · rw [written]
            exact factor.both conjunction
          · rw [written, List.length_append]
            omega
          · intro truth
            rw [value, same, Option.merge_some_some, Expression.value]

/-- Factors with `OR` between are read as a disjunction. -/
theorem isDisjunction_joined {terms : List Fragment} (reads : Combined .either terms meaning)
    (occupied : terms ≠ []) :
    ∃ expression, Expression.IsDisjunction (joined " OR " terms).tokens expression ∧
      ∀ truth, meaning truth = some (expression.value truth) := by
  induction reads with
  | nil nothing => exact absurd rfl occupied
  | @cons term rest expression following meaning factor reads value ih =>
      have conjunction := factor.isConjunction
      cases rest with
      | nil =>
          have nonempty := Expression.length_pos_of_isFactor factor
          refine ⟨expression, conjunction.isDisjunction nonempty, ?_⟩
          intro truth
          cases reads with
          | nil nothing => rw [value, nothing, Option.merge_none_right]
      | cons second others =>
          obtain ⟨tail, disjunction, same⟩ := ih (List.cons_ne_nil _ _)
          refine ⟨.either expression tail, ?_, ?_⟩
          · have separator : (words " OR ").tokens = [.word "OR"] := rfl
            rw [joined_cons_cons, tokens_append, tokens_append, separator, List.append_assoc,
              List.singleton_append]
            exact conjunction.either disjunction
          · intro truth
            rw [value, same, Option.merge_some_some, Expression.value]

end Combined

/-- The terms of a level with `AND` between, and what they come to. -/
inductive Level : List Fragment → Meaning → Prop where
  | nothing {meaning : Meaning} (nothing : ∀ truth, meaning truth = none) : Level [] meaning
  | written {terms : List Fragment} {expression : Expression} {meaning : Meaning}
      (occupied : terms ≠ [])
      (reads : Expression.IsDisjunction (joined " AND " terms).tokens expression)
      (value : ∀ truth, meaning truth = some (expression.value truth)) : Level terms meaning

theorem Combined.level {terms : List Fragment} {meaning : Meaning}
    (reads : Combined .both terms meaning) : Level terms meaning := by
  by_cases vacant : terms = []
  · subst vacant
    cases reads with
    | nil nothing => exact .nothing nothing
  · obtain ⟨expression, conjunction, nonempty, value⟩ := reads.isConjunction_joined vacant
    exact .written vacant (conjunction.isDisjunction nonempty) value

theorem tokens_parenthesised (fragment : Fragment) :
    (parenthesised fragment).tokens = .mark '(' :: fragment.tokens ++ [.mark ')'] := by
  have opening : (words "(").tokens = [.mark '('] := rfl
  have closing : (words ")").tokens = [.mark ')'] := rfl
  rw [parenthesised, tokens_append, tokens_append, opening, closing, List.singleton_append]

/-- A level without terms vanishes as a group; any other one is a factor in its parentheses. -/
theorem Level.group_append {combine : Truth → Truth → Truth} {terms rest : List Fragment}
    {first following meaning : Meaning} (level : Level terms first)
    (others : Combined combine rest following)
    (value : ∀ truth, meaning truth = Option.merge combine (first truth) (following truth)) :
    Combined combine (group terms ++ rest) meaning := by
  cases level with
  | nothing nothing =>
      have same : meaning = following := by
        funext truth
        rw [value, nothing, Option.merge_none_left]
      rw [same]
      exact others
  | @written terms expression meaning occupied reads written =>
      rw [group, if_neg (by simpa using occupied), List.singleton_append]
      have factor : Expression.IsFactor (parenthesised (joined " AND " terms)).tokens
          expression := by
        rw [tokens_parenthesised]
        exact reads.isFactor
      apply Combined.cons factor others
      intro truth
      rw [value, written]

theorem combined_alternative {groups : List Fragment} {meaning : Meaning}
    (reads : Combined .either groups meaning) :
    Combined .both (alternative true groups) meaning := by
  by_cases vacant : groups = []
  · subst vacant
    cases reads with
    | nil nothing => exact .nil nothing
  · obtain ⟨expression, disjunction, value⟩ := reads.isDisjunction_joined vacant
    rw [alternative, if_neg (by simpa using vacant), if_pos rfl]
    apply Combined.singleton _ value
    rw [tokens_parenthesised]
    exact disjunction.isFactor

theorem level_alternative {groups : List Fragment} {meaning : Meaning}
    (reads : Combined .either groups meaning) : Level (alternative false groups) meaning := by
  by_cases vacant : groups = []
  · subst vacant
    cases reads with
    | nil nothing => exact .nothing nothing
  · obtain ⟨expression, disjunction, value⟩ := reads.isDisjunction_joined vacant
    rw [alternative, if_neg (by simpa using vacant), if_neg Bool.false_ne_true]
    exact .written (List.cons_ne_nil _ _) disjunction value

mutual

/-- The terms of a criterion, beside others and alone. -/
theorem reads_criterionTerms : (criterion : Criterion) →
    Combined .both (criterionTerms true criterion) (criterionValue? · criterion) ∧
      Level (criterionTerms false criterion) (criterionValue? · criterion)
  | .column column condition => by
      have alone : Combined .both [condition.fragment column]
          (criterionValue? · (.column column condition)) :=
        Combined.singleton (Condition.isFactor_fragment column condition) fun truth => rfl
      exact ⟨alone, alone.level⟩
  | .conjunction filters => by
      have reads : Combined .both (groups filters) (criterionValue? · (.conjunction filters)) :=
        combined_groups .both filters
      exact ⟨reads, reads.level⟩
  | .disjunction filters => by
      have reads : Combined .either (groups filters) (criterionValue? · (.disjunction filters)) :=
        combined_groups .either filters
      exact ⟨combined_alternative reads, level_alternative reads⟩

/-- The terms of a filter, where there are other terms beside them and as a level. -/
theorem reads_terms : (filter : List Criterion) →
    Combined .both (terms true filter) (value? · filter) ∧
      Level (terms (1 < filter.length) filter) (value? · filter)
  | [] => ⟨.nil fun truth => rfl, .nothing fun truth => rfl⟩
  | criterion :: rest => by
      obtain ⟨beside, alone⟩ := reads_criterionTerms criterion
      have whole : Combined .both (terms true (criterion :: rest))
          (value? · (criterion :: rest)) :=
        beside.append Truth.both_assoc (reads_terms rest).1 fun truth => rfl
      refine ⟨whole, ?_⟩
      cases rest with
      | nil =>
          have same : (value? · [criterion]) = (criterionValue? · criterion) := by
            funext truth
            rw [value?, value?, Option.merge_none_right]
          rw [same]
          simpa [terms] using alone
      | cons second others =>
          have several : decide (1 < (criterion :: second :: others).length) = true := by
            simp
          rw [several]
          exact whole.level

theorem combined_groups (combine : Truth → Truth → Truth) : (filters : List (List Criterion)) →
    Combined combine (groups filters) (groupValue? · combine filters)
  | [] => .nil fun truth => rfl
  | filter :: rest => by
      rw [groups]
      exact (reads_terms filter).2.group_append (combined_groups combine rest) fun truth => rfl

end

mutual

theorem criterionValue?_eq_none (truth : Assignment) : (criterion : Criterion) →
    (criterionValue? truth criterion = none ↔ criterionConditions criterion = [])
  | .column column condition => by
      rw [criterionValue?, criterionConditions]
      exact ⟨nofun, nofun⟩
  | .conjunction filters => groupValue?_eq_none truth .both filters
  | .disjunction filters => groupValue?_eq_none truth .either filters

/-- Only a filter that has no condition at any depth comes to nothing. -/
theorem value?_eq_none (truth : Assignment) : (filter : List Criterion) →
    (value? truth filter = none ↔ conditions filter = [])
  | [] => ⟨fun _ => rfl, fun _ => rfl⟩
  | criterion :: rest => by
      rw [value?, conditions, Option.merge_eq_none_iff, List.append_eq_nil_iff,
        criterionValue?_eq_none truth criterion, value?_eq_none truth rest]

theorem groupValue?_eq_none (truth : Assignment) (combine : Truth → Truth → Truth) :
    (filters : List (List Criterion)) →
      (groupValue? truth combine filters = none ↔ groupConditions filters = [])
  | [] => ⟨fun _ => rfl, fun _ => rfl⟩
  | filter :: rest => by
      rw [groupValue?, groupConditions, Option.merge_eq_none_iff, List.append_eq_nil_iff,
        value?_eq_none truth filter, groupValue?_eq_none truth combine rest]

end

/-- A filter in a statement: as a group of another filter, or behind `WHERE`. -/
def written (isGroup : Bool) (filter : Filter) : Fragment :=
  if isGroup then nested filter else clause filter

/-- The words around the condition of a filter. -/
def surrounded (isGroup : Bool) (condition : Fragment) : Fragment :=
  if isGroup then parenthesised condition else words " WHERE " ++ condition

private theorem written_of_nil {isGroup : Bool} {filter : Filter} (nothing : topTerms filter = []) :
    written isGroup filter = Fragment.empty := by
  cases isGroup with
  | true =>
      rw [written, if_pos rfl, nested, nothing]
      rfl
  | false =>
      rw [written, if_neg Bool.false_ne_true, clause, nothing]
      rfl

private theorem written_of_ne_nil {isGroup : Bool} {filter : Filter}
    (occupied : topTerms filter ≠ []) :
    written isGroup filter = surrounded isGroup (joined " AND " (topTerms filter)) := by
  have some : (topTerms filter).isEmpty = false := by simpa using occupied
  cases isGroup with
  | true =>
      rw [written, if_pos rfl, nested, group, some]
      rfl
  | false =>
      rw [written, if_neg Bool.false_ne_true, clause, some]
      rfl

private theorem legible_surrounded (isGroup : Bool) {condition : Fragment}
    (legible : condition.Legible) : (surrounded isGroup condition).Legible := by
  cases isGroup with
  | true => exact legible_parenthesised legible
  | false => exact (legible_words (by decide)).append legible (Or.inl (by decide))

private theorem sound_surrounded (isGroup : Bool) {condition : Fragment}
    (sound : condition.fault? = none) : (surrounded isGroup condition).fault? = none := by
  cases isGroup with
  | true => exact grouped_sound.parentheses condition sound
  | false =>
      have words : (words " WHERE ").fault? = none := rfl
      rw [surrounded, if_neg Bool.false_ne_true, fault?_append, words, sound]
      rfl

private theorem text_surrounded_ne (isGroup : Bool) (condition : Fragment) :
    (surrounded isGroup condition).text ≠ "" := by
  intro vacant
  have letters : (surrounded isGroup condition).chars = [] := by
    rw [chars, vacant]
    rfl
  cases isGroup <;> simp [surrounded, parenthesised] at letters

end Filter

/-- The condition that the text of a statement is read as: a group, or what follows `WHERE`. -/
def Statement.condition? (isGroup : Bool) (statement : Statement) : Option Expression :=
  statement.tokens?.bind fun tokens =>
    if isGroup then Expression.read? tokens else Expression.readWhere? tokens

namespace Filter

/-- The words around a condition do not change how it is read. -/
theorem condition?_surrounded (isGroup : Bool) {condition : Fragment}
    {expression : Expression} {statement : Statement} (legible : condition.Legible)
    (reads : Expression.IsDisjunction condition.tokens expression)
    (success : (surrounded isGroup condition).statement = .ok statement) :
    statement.condition? isGroup = some expression := by
  have tokens := (legible_surrounded isGroup legible).tokens?_statement success
  rw [Statement.condition?, tokens, Option.bind_some]
  cases isGroup with
  | true =>
      have factor : Expression.IsFactor (parenthesised condition).tokens expression := by
        rw [tokens_parenthesised]
        exact reads.isFactor
      have nonempty := Expression.length_pos_of_isFactor factor
      exact (factor.isConjunction.isDisjunction nonempty).read?
  | false =>
      have keyword : (words " WHERE ").tokens = [.word "WHERE"] := rfl
      rw [surrounded, if_neg Bool.false_ne_true, if_neg Bool.false_ne_true, tokens_append, keyword,
        List.singleton_append, Expression.readWhere?]
      exact reads.read?

/-- The text of a filter whose columns can be quoted is read as a condition that comes to what the
filter comes to, whatever its conditions on columns come to. There is no text exactly if there is no
condition at any depth. -/
theorem written_preserves_meaning (isGroup : Bool) (filter : Filter)
    (quotable : ∀ entry ∈ conditions filter, (Fragment.column entry.1).fault? = none) :
    ∃ statement, (written isGroup filter).statement = .ok statement ∧
      (statement.text = "" ↔ conditions filter = []) ∧
      (conditions filter ≠ [] → ∃ expression, statement.condition? isGroup = some expression ∧
        ∀ truth, value? truth filter = some (expression.value truth)) := by
  have legible := legible_condition filter
  have sound := sound_condition quotable
  have level : Level (topTerms filter) (value? · filter) := (reads_terms filter).2
  generalize terms : topTerms filter = terms at level legible sound
  cases level with
  | nothing nothing =>
      have vacant : conditions filter = [] := (value?_eq_none (fun _ _ => .no) filter).1 (nothing _)
      refine ⟨⟨"", []⟩, ?_, ⟨fun _ => vacant, fun _ => rfl⟩, absurd vacant⟩
      rw [written_of_nil terms]
      rfl
  | @written terms expression meaning occupied reads value =>
      have some : conditions filter ≠ [] := by
        intro vacant
        have nothing := (value?_eq_none (fun _ _ => .no) filter).2 vacant
        exact absurd ((value _).symm.trans nothing) nofun
      rw [← terms] at occupied legible sound reads
      have success := statement_of_sound (sound_surrounded isGroup sound)
      rw [written_of_ne_nil occupied]
      refine ⟨_, success, ?_, fun _ => ⟨expression, ?_, value⟩⟩
      · have written := text_surrounded_ne isGroup (joined " AND " (topTerms filter))
        exact ⟨fun vacant => absurd vacant written, fun vacant => absurd vacant some⟩
      · exact condition?_surrounded isGroup legible reads success

/-- A column named like an operator, groups that vanish, a range, and an empty list. -/
theorem written_preserves_meaning_alternative :
    let filter : Filter :=
      [.column (.bare "a\x60 OR \x60b") .isNull,
        .disjunction [[], [.conjunction [[]]],
          [.column (.qualified "t" "c") (.between (.int 1) (.int 2))],
          [.column (.bare "d") (.inList []), .column (.bare "e") (.eq (.text "AND"))]]]
    (∀ entry ∈ conditions filter, (Fragment.column entry.1).fault? = none) ∧
      ∃ statement, (written false filter).statement = .ok statement ∧
        ∃ expression, statement.condition? false = some expression ∧
          ∀ truth, value? truth filter = some (expression.value truth) := by
  intro filter
  have quotable : ∀ entry ∈ conditions filter, (Fragment.column entry.1).fault? = none := by
    intro entry member
    simp only [filter, conditions, criterionConditions, groupConditions, List.nil_append,
      List.cons_append, List.append_nil, List.mem_cons, List.not_mem_nil, or_false] at member
    rcases member with rfl | rfl | rfl | rfl <;> rfl
  obtain ⟨statement, success, -, meaning⟩ := written_preserves_meaning false filter quotable
  exact ⟨quotable, statement, success, meaning (List.cons_ne_nil _ _)⟩

end Filter

end EntityMapper
