import EntityMapper.Proofs.Filter.Meaning
import EntityMapper.Proofs.Statement.Legible

set_option autoImplicit false

/-! Reading the condition of a statement: `AND` binds closer than `OR`, and a range with its own
`AND` is one condition. -/

namespace EntityMapper

namespace Expression

/-- A part of a statement that is read, with what follows it. -/
abbrev Reader (α : Type) := List (Token Value) → Option (α × List (Token Value))

def column? : Reader ColumnRef
  | .name table :: .mark '.' :: .name column :: rest => some (.qualified table column, rest)
  | .name column :: rest => some (.bare column, rest)
  | _ => none

/-- The values of a list, behind its opening parenthesis. -/
def values? : Reader (List Value)
  | .placeholder value :: .mark ')' :: rest => some ([value], rest)
  | .placeholder value :: .mark ',' :: rest =>
      (values? rest).map fun read => (value :: read.1, read.2)
  | _ => none

/-- A list of values; the word `NULL` stands for none. -/
def list? : Reader (List Value)
  | .word "NULL" :: .mark ')' :: rest => some ([], rest)
  | tokens => values? tokens

/-- What a statement says of a column behind its name. -/
def condition? : Reader Condition
  | .word "IS" :: .word "NULL" :: rest => some (.isNull, rest)
  | .comparison "=" :: .placeholder value :: rest => some (.eq value, rest)
  | .comparison "<>" :: .placeholder value :: rest => some (.ne value, rest)
  | .comparison ">" :: .placeholder value :: rest => some (.gt value, rest)
  | .comparison ">=" :: .placeholder value :: rest => some (.gte value, rest)
  | .comparison "<" :: .placeholder value :: rest => some (.lt value, rest)
  | .comparison "<=" :: .placeholder value :: rest => some (.lte value, rest)
  | .word "IS" :: .placeholder value :: rest => some (.is value, rest)
  | .word "IS" :: .word "NOT" :: .placeholder value :: rest => some (.isNot value, rest)
  | .word "BETWEEN" :: .placeholder least :: .word "AND" :: .placeholder greatest :: rest =>
      some (.between least greatest, rest)
  | .word "NOT" :: .word "BETWEEN" :: .placeholder least :: .word "AND" ::
      .placeholder greatest :: rest => some (.notBetween least greatest, rest)
  | .word "IN" :: .mark '(' :: rest => (list? rest).map fun read => (.inList read.1, read.2)
  | .word "NOT" :: .word "IN" :: .mark '(' :: rest =>
      (list? rest).map fun read => (.notInList read.1, read.2)
  | .word "LIKE" :: .placeholder pattern :: rest => some (.like pattern, rest)
  | .word "NOT" :: .word "LIKE" :: .placeholder pattern :: rest => some (.notLike pattern, rest)
  | _ => none

mutual

/-- A condition on a column, or a condition in parentheses. The first argument bounds the depth. -/
def factor? : Nat → Reader Expression
  | 0, _ => none
  | depth + 1, .mark '(' :: rest =>
      match disjunction? depth rest with
      | some (inner, .mark ')' :: following) => some (inner, following)
      | _ => none
  | _ + 1, tokens =>
      (column? tokens).bind fun read =>
        (condition? read.2).map fun found => (.atom read.1 found.1, found.2)

/-- Factors with `AND` between. -/
def conjunction? : Nat → Reader Expression
  | 0, _ => none
  | depth + 1, tokens =>
      (factor? depth tokens).bind fun read =>
        match read.2 with
        | .word "AND" :: rest =>
            (conjunction? depth rest).map fun others => (.both read.1 others.1, others.2)
        | _ => some read

/-- Conjunctions with `OR` between. -/
def disjunction? : Nat → Reader Expression
  | 0, _ => none
  | depth + 1, tokens =>
      (conjunction? depth tokens).bind fun read =>
        match read.2 with
        | .word "OR" :: rest =>
            (disjunction? depth rest).map fun others => (.either read.1 others.1, others.2)
        | _ => some read

end

/-- Three steps of depth for each token are enough for any condition. -/
def depthFor (tokens : List (Token Value)) : Nat := 3 * tokens.length

/-- The condition that a list of tokens is as a whole. -/
def read? (tokens : List (Token Value)) : Option Expression :=
  match disjunction? (depthFor tokens) tokens with
  | some (expression, []) => some expression
  | _ => none

/-- The condition behind `WHERE`. -/
def readWhere? : List (Token Value) → Option Expression
  | .word "WHERE" :: rest => read? rest
  | _ => none

/-- Tokens that are read as a factor, whatever follows them. -/
def IsFactor (tokens : List (Token Value)) (expression : Expression) : Prop :=
  ∀ depth rest, 3 * tokens.length ≤ depth + 2 →
    factor? depth (tokens ++ rest) = some (expression, rest)

/-- Whether what follows goes on with a word. -/
def GoesOn (word : String) : List (Token Value) → Prop
  | .word found :: _ => found = word
  | _ => False

/-- Tokens that are read as a conjunction, unless an `AND` follows. -/
def IsConjunction (tokens : List (Token Value)) (expression : Expression) : Prop :=
  ∀ depth rest, 3 * tokens.length ≤ depth + 1 → ¬ GoesOn "AND" rest →
    conjunction? depth (tokens ++ rest) = some (expression, rest)

/-- Tokens that are read as a disjunction, unless an `AND` or an `OR` follows. -/
def IsDisjunction (tokens : List (Token Value)) (expression : Expression) : Prop :=
  ∀ depth rest, 3 * tokens.length ≤ depth → ¬ GoesOn "AND" rest → ¬ GoesOn "OR" rest →
    disjunction? depth (tokens ++ rest) = some (expression, rest)

theorem length_pos_of_isFactor {tokens : List (Token Value)} {expression : Expression}
    (factor : IsFactor tokens expression) : 0 < tokens.length := by
  apply Nat.pos_of_ne_zero
  intro empty
  have read := factor 0 [] (by omega)
  rw [factor?] at read
  cases read

theorem IsFactor.isConjunction {tokens : List (Token Value)} {expression : Expression}
    (factor : IsFactor tokens expression) : IsConjunction tokens expression := by
  intro depth rest enough stops
  have nonempty := length_pos_of_isFactor factor
  obtain ⟨depth, rfl⟩ : ∃ less, depth = less + 1 := ⟨depth - 1, by omega⟩
  rw [conjunction?, factor depth rest (by omega), Option.bind_some]
  split
  · rename_i following more
    simp only at more
    rw [more] at stops
    exact absurd rfl stops
  · rfl

theorem IsFactor.both {left right : List (Token Value)} {first second : Expression}
    (factor : IsFactor left first) (others : IsConjunction right second) :
    IsConjunction (left ++ .word "AND" :: right) (.both first second) := by
  intro depth rest enough stops
  rw [List.length_append, List.length_cons] at enough
  obtain ⟨depth, rfl⟩ : ∃ less, depth = less + 1 := ⟨depth - 1, by omega⟩
  rw [List.append_assoc, List.cons_append, conjunction?, factor depth _ (by omega),
    Option.bind_some]
  simp only [others depth rest (by omega) stops, Option.map_some]

theorem IsConjunction.isDisjunction {tokens : List (Token Value)} {expression : Expression}
    (conjunction : IsConjunction tokens expression) (nonempty : 0 < tokens.length) :
    IsDisjunction tokens expression := by
  intro depth rest enough stopsAnd stopsOr
  obtain ⟨depth, rfl⟩ : ∃ less, depth = less + 1 := ⟨depth - 1, by omega⟩
  rw [disjunction?, conjunction depth rest (by omega) stopsAnd, Option.bind_some]
  split
  · rename_i following more
    simp only at more
    rw [more] at stopsOr
    exact absurd rfl stopsOr
  · rfl

theorem IsConjunction.either {left right : List (Token Value)} {first second : Expression}
    (conjunction : IsConjunction left first) (others : IsDisjunction right second) :
    IsDisjunction (left ++ .word "OR" :: right) (.either first second) := by
  intro depth rest enough stopsAnd stopsOr
  rw [List.length_append, List.length_cons] at enough
  obtain ⟨depth, rfl⟩ : ∃ less, depth = less + 1 := ⟨depth - 1, by omega⟩
  have separate : ¬ GoesOn "AND" (.word "OR" :: (right ++ rest)) := by
    rw [GoesOn]
    decide
  rw [List.append_assoc, List.cons_append, disjunction?, conjunction depth _ (by omega) separate,
    Option.bind_some]
  simp only [others depth rest (by omega) stopsAnd stopsOr, Option.map_some]

/-- Whatever is read as a disjunction is a factor in parentheses. -/
theorem IsDisjunction.isFactor {tokens : List (Token Value)} {expression : Expression}
    (disjunction : IsDisjunction tokens expression) :
    IsFactor (.mark '(' :: tokens ++ [.mark ')']) expression := by
  intro depth rest enough
  simp only [List.cons_append, List.length_cons, List.length_append, List.length_nil] at enough
  obtain ⟨depth, rfl⟩ : ∃ less, depth = less + 1 := ⟨depth - 1, by omega⟩
  have closed (word : String) : ¬ GoesOn word (.mark ')' :: rest) := id
  rw [List.cons_append, List.cons_append, List.append_assoc, List.singleton_append, factor?,
    disjunction depth _ (by omega) (closed _) (closed _)]
  rfl

theorem IsDisjunction.read? {tokens : List (Token Value)} {expression : Expression}
    (disjunction : IsDisjunction tokens expression) : read? tokens = some expression := by
  have whole := disjunction (depthFor tokens) [] (Nat.le_refl _) id id
  rw [List.append_nil] at whole
  rw [Expression.read?, whole]

@[simp] theorem tokens_column_none (column : String) :
    (Fragment.column ⟨none, column⟩).tokens = [.name column] := rfl

/-- A column ends where no point follows. -/
theorem column?_tokens (column : ColumnRef) {rest : List (Token Value)}
    (apart : rest.head? ≠ some (.mark '.')) :
    column? ((Fragment.column column).tokens ++ rest) = some (column, rest) := by
  obtain ⟨table | table, column⟩ := column
  · rw [tokens_column_none, List.singleton_append]
    unfold column?
    split
    · rename_i point
      rw [(List.cons.inj point).2] at apart
      exact absurd rfl apart
    · rename_i same
      cases same
      rfl
    · rename_i other
      exact absurd rfl (other column rest)
  · rfl

/-- A column followed by what is said of it is a factor. -/
theorem isFactor_of_condition {column : ColumnRef} {condition : Condition}
    {tokens : List (Token Value)}
    (said : ∀ rest, condition? (tokens ++ rest) = some (condition, rest)) :
    IsFactor ((Fragment.column column).tokens ++ tokens) (.atom column condition) := by
  intro depth rest enough
  have following : (tokens ++ rest).head? ≠ some (.mark '.') := by
    intro point
    obtain ⟨others, written⟩ := List.head?_eq_some_iff.1 point
    have nothing := said rest
    rw [written] at nothing
    cases nothing
  have read := column?_tokens column following
  rw [List.append_assoc]
  -- A column starts with a name, so no parenthesis opens here.
  obtain ⟨name, others, opens⟩ : ∃ name others,
      (Fragment.column column).tokens = .name name :: others := by
    obtain ⟨table | table, column⟩ := column
    · exact ⟨_, _, rfl⟩
    · exact ⟨_, _, rfl⟩
  rw [opens] at enough read ⊢
  rw [List.length_append, List.length_cons] at enough
  obtain ⟨depth, rfl⟩ : ∃ less, depth = less + 1 := ⟨depth - 1, by omega⟩
  rw [List.cons_append] at read ⊢
  rw [factor?, read, Option.bind_some, said, Option.map_some]
  intro inner parenthesis
  cases parenthesis

end Expression

end EntityMapper
