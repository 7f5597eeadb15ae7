import EntityMapper.Proofs.Filter.Condition
import EntityMapper.Proofs.Filter.Outline

set_option autoImplicit false

/-! Conditions and their negations, as a database reads and decides them. Comparisons with null are
unknown, and so is what `NOT` makes of them. -/

namespace EntityMapper

open Fragment

namespace Truth

def negate : Truth → Truth
  | .no => .yes
  | .unknown => .unknown
  | .yes => .no

/-- The condition holds or does not. -/
def Known (truth : Truth) : Prop := truth ≠ .unknown

theorem Known.both {first second : Truth} (left : first.Known) (right : second.Known) :
    (first.both second).Known := by
  cases first with
  | no => exact nofun
  | unknown => exact absurd rfl left
  | yes => cases second <;> exact right

theorem Known.either {first second : Truth} (left : first.Known) (right : second.Known) :
    (first.either second).Known := by
  cases first with
  | no => cases second <;> exact right
  | unknown => exact absurd rfl left
  | yes => exact nofun

/-- Of what is known and its negation one holds, and the other does not. -/
theorem Known.one {truth : Truth} (known : truth.Known) :
    (truth = .yes ∧ truth.negate = .no) ∨ (truth = .no ∧ truth.negate = .yes) := by
  cases truth with
  | no => exact Or.inr ⟨rfl, rfl⟩
  | unknown => exact absurd rfl known
  | yes => exact Or.inl ⟨rfl, rfl⟩

end Truth

/-- How a database orders values. Some cannot be compared, and null with none. -/
structure Collation where
  compare : Value → Value → Option Ordering
  null_left : ∀ value, compare .null value = none
  null_right : ∀ value, compare value .null = none

namespace Collation

/-- Two values that can be compared. -/
def Comparable (collation : Collation) (left right : Value) : Prop :=
  (collation.compare left right).isSome = true

/-- A comparison, unknown for values that cannot be compared. -/
def decides (collation : Collation) (holds : Ordering → Bool) (left right : Value) : Truth :=
  match collation.compare left right with
  | none => .unknown
  | some order => if holds order then .yes else .no

variable {collation : Collation} {holds : Ordering → Bool} {left right : Value}

theorem decides_known (comparable : collation.Comparable left right) :
    (collation.decides holds left right).Known := by
  obtain ⟨order, compared⟩ := Option.isSome_iff_exists.1 comparable
  simp only [decides, compared]
  split <;> exact nofun

theorem decides_null : collation.decides holds left .null = .unknown := by
  rw [decides, collation.null_right]

/-- The opposite of a comparison has the opposite value. -/
theorem decides_not :
    collation.decides (fun order => !holds order) left right =
      (collation.decides holds left right).negate := by
  rw [decides, decides]
  cases collation.compare left right with
  | none => rfl
  | some order => cases decided : holds order <;> simp [decided, Truth.negate]

end Collation

/-- What a statement asks of the value of a column. -/
inductive Test where
  | equals (operand : Value)
  | differs (operand : Value)
  | within (least greatest : Value)
  | among (operands : List Value)
  | negation (test : Test)

namespace Test

/-- What a test comes to for a value: a range asks for both of its bounds, a list for one of its
operands, and a negation is unknown where the test is. -/
def truth (collation : Collation) (stored : Value) : Test → Truth
  | .equals operand => collation.decides (· = .eq) stored operand
  | .differs operand => collation.decides (· ≠ .eq) stored operand
  | .within least greatest =>
      (collation.decides (· ≠ .lt) stored least).both (collation.decides (· ≠ .gt) stored greatest)
  | .among operands =>
      operands.foldr
        (fun operand others => (collation.decides (· = .eq) stored operand).either others) .no
  | .negation test => (test.truth collation stored).negate

section Reading

open Expression (Reader column?)

/-- The operands of a list, behind its opening parenthesis: placeholders, or the word for null. -/
def operands? : Reader (List Value)
  | .placeholder value :: .mark ')' :: rest => some ([value], rest)
  | .placeholder value :: .mark ',' :: rest =>
      (operands? rest).map fun read => (value :: read.1, read.2)
  | .word "NULL" :: .mark ')' :: rest => some ([.null], rest)
  | .word "NULL" :: .mark ',' :: rest =>
      (operands? rest).map fun read => (.null :: read.1, read.2)
  | _ => none

/-- What a statement asks behind the name of a column. -/
def test? : Reader Test
  | .comparison "=" :: .placeholder value :: rest => some (.equals value, rest)
  | .comparison "<>" :: .placeholder value :: rest => some (.differs value, rest)
  | .word "BETWEEN" :: .placeholder least :: .word "AND" :: .placeholder greatest :: rest =>
      some (.within least greatest, rest)
  | .word "IN" :: .mark '(' :: rest => (operands? rest).map fun read => (.among read.1, read.2)
  | .word "NOT" :: rest => (test? rest).map fun read => (.negation read.1, read.2)
  | _ => none

/-- A column and what is asked of it. -/
def asked? : Reader (ColumnRef × Test) := fun tokens =>
  (column? tokens).bind fun read => (test? read.2).map fun found => ((read.1, found.1), found.2)

/-- The test that a list of tokens is as a whole, in parentheses or not. -/
def read? : List (Token Value) → Option (ColumnRef × Test)
  | .mark '(' :: tokens =>
      match asked? tokens with
      | some (read, [.mark ')']) => some read
      | _ => none
  | tokens =>
      match asked? tokens with
      | some (read, []) => some read
      | _ => none

variable (column : ColumnRef) {tokens : List (Token Value)} {test : Test}

theorem asked?_column {rest : List (Token Value)}
    (said : test? (tokens ++ rest) = some (test, rest)) :
    asked? ((Fragment.column column).tokens ++ (tokens ++ rest)) = some ((column, test), rest) := by
  have following : (tokens ++ rest).head? ≠ some (.mark '.') := by
    intro point
    obtain ⟨others, written⟩ := List.head?_eq_some_iff.1 point
    rw [written] at said
    cases said
  rw [asked?, Expression.column?_tokens column following, Option.bind_some, said]
  rfl

theorem read?_column (said : test? tokens = some (test, [])) :
    read? ((Fragment.column column).tokens ++ tokens) = some (column, test) := by
  rw [← List.append_nil tokens] at said
  have asked := asked?_column column said
  rw [List.append_nil] at asked
  obtain ⟨name, others, opens⟩ : ∃ name others,
      (Fragment.column column).tokens = .name name :: others := by
    obtain ⟨table | table, column⟩ := column <;> exact ⟨_, _, rfl⟩
  rw [opens, List.cons_append] at asked ⊢
  rw [read?, asked]
  intro inner parenthesis
  cases parenthesis

/-- In parentheses a test is the same. -/
theorem read?_parenthesised (said : test? (tokens ++ [.mark ')']) = some (test, [.mark ')'])) :
    read? (.mark '(' :: ((Fragment.column column).tokens ++ tokens) ++ [.mark ')']) =
      some (column, test) := by
  rw [List.cons_append, List.append_assoc, read?, asked?_column column said]
  rfl

/-- A list is read with its operands; an empty one has null as its only one. -/
theorem operands?_bindList (values : List Value) (rest : List (Token Value)) :
    operands? ((bindList values).tokens ++ .mark ')' :: rest) =
      some (if values.isEmpty then [.null] else values, rest) := by
  cases values with
  | nil => rfl
  | cons first others =>
      rw [bindList, List.isEmpty_cons, if_neg Bool.false_ne_true, if_neg Bool.false_ne_true]
      induction others generalizing first with
      | nil => rfl
      | cons second more ih =>
          have comma : (words ", ").tokens = [.mark ','] := rfl
          have following := ih second
          rw [List.map_cons, List.map_cons, joined_cons_cons, tokens_append, tokens_append,
            tokens_bind, comma, ← List.map_cons]
          simp only [List.cons_append, List.nil_append, operands?, following, Option.map_some]

end Reading

section Known

variable {collation : Collation} {stored : Value}

theorem among_known {operands : List Value}
    (comparable : ∀ operand ∈ operands, collation.Comparable stored operand) :
    ((among operands).truth collation stored).Known := by
  induction operands with
  | nil => exact nofun
  | cons operand rest ih =>
      rw [List.forall_mem_cons] at comparable
      exact (Collation.decides_known comparable.1).either (ih comparable.2)

theorem among_null : (among [.null]).truth collation stored = .unknown := by
  rw [truth, List.foldr_cons, Collation.decides_null]
  rfl

theorem differs_truth (operand : Value) : (differs operand).truth collation stored =
    ((equals operand).truth collation stored).negate := by
  rw [truth, truth, ← Collation.decides_not]
  refine congrArg (fun holds => collation.decides holds stored operand) (funext fun order => ?_)
  cases order <;> rfl

end Known

end Test

/-- What the condition that is a statement comes to on a row. -/
def Statement.truth? (collation : Collation) (row : ColumnRef → Value) (statement : Statement) :
    Option Truth :=
  (statement.tokens?.bind Test.read?).map fun read => read.2.truth collation (row read.1)

namespace Condition

/-- Conditions of which the second is the negation of the first. -/
inductive Opposite : Condition → Condition → Prop where
  | equality (value : Value) : Opposite (.eq value) (.ne value)
  | membership (values : List Value) : Opposite (.inList values) (.notInList values)
  | range (least greatest : Value) : Opposite (.between least greatest) (.notBetween least greatest)

/-- The condition on a column is written as a statement that asks for a test. -/
def Asks (column : ColumnRef) (condition : Condition) (test : Test) : Prop :=
  Test.read? (condition.fragment column).tokens = some (column, test)

/-- What is written comes to what the test comes to, if the column can be quoted. -/
theorem Asks.truth? {column : ColumnRef} {condition : Condition} {test : Test}
    (asks : condition.Asks column test) (quotable : ∀ name ∈ column.names, Name.fault? name = none)
    (collation : Collation) (row : ColumnRef → Value) :
    ∃ statement, (condition.fragment column).statement = .ok statement ∧
      statement.truth? collation row = some (test.truth collation (row column)) := by
  have sound : (condition.fragment column).fault? = none := by
    rw [fault?_eq_none_iff, names_fragment]
    exact quotable
  have written := statement_of_sound sound
  refine ⟨_, written, ?_⟩
  rw [Statement.truth?, (legible_fragment column condition).tokens?_statement written,
    Option.bind_some, asks]
  rfl

section Asking

variable (column : ColumnRef)

theorem asks_eq (value : Value) : (Condition.eq value).Asks column (.equals value) := by
  rw [Asks, fragment, tokens_comparison]
  exact Test.read?_column column rfl

theorem asks_ne (value : Value) : (Condition.ne value).Asks column (.differs value) := by
  rw [Asks, fragment, tokens_comparison]
  exact Test.read?_column column rfl

theorem asks_between (least greatest : Value) :
    (between least greatest).Asks column (.within least greatest) := by
  rw [Asks, fragment, tokens_range]
  exact Test.read?_parenthesised column rfl

theorem asks_notBetween (least greatest : Value) :
    (notBetween least greatest).Asks column (.negation (.within least greatest)) := by
  rw [Asks, fragment, tokens_range]
  exact Test.read?_parenthesised column rfl

theorem asks_inList (values : List Value) :
    (inList values).Asks column (.among (if values.isEmpty then [.null] else values)) := by
  rw [Asks, fragment, tokens_membership]
  refine Test.read?_column column ?_
  have opens : (words " IN (").tokens = [.word "IN", .mark '('] := rfl
  rw [opens, List.cons_append, List.singleton_append, Test.test?, Test.operands?_bindList]
  rfl

theorem asks_notInList (values : List Value) :
    (notInList values).Asks column
      (.negation (.among (if values.isEmpty then [.null] else values))) := by
  rw [Asks, fragment, tokens_membership]
  refine Test.read?_column column ?_
  have opens : (words " NOT IN (").tokens = [.word "NOT", .word "IN", .mark '('] := rfl
  rw [opens, List.cons_append, List.cons_append, List.singleton_append, Test.test?, Test.test?,
    Test.operands?_bindList]
  rfl

end Asking

/-- A condition and its negation ask for opposite tests, which are known where all operands can be
compared. Only where there are no operands they are unknown. -/
theorem Opposite.tests {positive negative : Condition} (opposite : Opposite positive negative)
    (column : ColumnRef) :
    ∃ test negated, positive.Asks column test ∧ negative.Asks column negated ∧
      ∀ (collation : Collation) (stored : Value),
        negated.truth collation stored = (test.truth collation stored).negate ∧
        (positive.operands ≠ [] →
          (∀ operand ∈ positive.operands, collation.Comparable stored operand) →
          (test.truth collation stored).Known) ∧
        (positive.operands = [] → test.truth collation stored = .unknown) := by
  cases opposite with
  | equality value =>
      refine ⟨_, _, asks_eq column value, asks_ne column value, fun collation stored => ?_⟩
      refine ⟨Test.differs_truth value, fun _ comparable => ?_, nofun⟩
      exact Collation.decides_known (comparable value List.mem_cons_self)
  | membership values =>
      refine ⟨_, _, asks_inList column values, asks_notInList column values,
        fun collation stored => ⟨rfl, ?_⟩⟩
      rw [operands]
      cases values with
      | nil => exact ⟨fun some => absurd rfl some, fun _ => Test.among_null⟩
      | cons first others => exact ⟨fun _ comparable => Test.among_known comparable, nofun⟩
  | range least greatest =>
      refine ⟨_, _, asks_between column least greatest, asks_notBetween column least greatest,
        fun collation stored => ⟨rfl, fun _ comparable => ?_, nofun⟩⟩
      have above := comparable least List.mem_cons_self
      have below := comparable greatest (List.mem_cons_of_mem _ List.mem_cons_self)
      exact (Collation.decides_known above).both (Collation.decides_known below)

/-- Of a condition and its negation, as they are written, one holds on a row and the other does not,
if the value of the column can be compared with all operands. Only a list without operands is
written as null: then neither holds, as both are unknown. -/
theorem opposites_complement {positive negative : Condition} (opposite : Opposite positive negative)
    {column : ColumnRef} (quotable : ∀ name ∈ column.names, Name.fault? name = none)
    {collation : Collation} {row : ColumnRef → Value}
    (comparable : ∀ operand ∈ positive.operands, collation.Comparable (row column) operand) :
    ∃ first second, (positive.fragment column).statement = .ok first ∧
      (negative.fragment column).statement = .ok second ∧
      (positive.operands ≠ [] →
        (first.truth? collation row = some .yes ∧ second.truth? collation row = some .no) ∨
        (first.truth? collation row = some .no ∧ second.truth? collation row = some .yes)) ∧
      (positive.operands = [] →
        first.truth? collation row = some .unknown ∧
          second.truth? collation row = some .unknown) := by
  obtain ⟨test, negated, asks, denies, tested⟩ := opposite.tests column
  obtain ⟨negates, known, unknown⟩ := tested collation (row column)
  obtain ⟨first, written, means⟩ := asks.truth? quotable collation row
  obtain ⟨second, denied, denial⟩ := denies.truth? quotable collation row
  refine ⟨first, second, written, denied, ?_⟩
  rw [means, denial, negates]
  refine ⟨fun occupied => ?_, fun vacant => ?_⟩
  · simpa only [Option.some.injEq] using (known occupied comparable).one
  · rw [unknown vacant]
    exact ⟨rfl, rfl⟩

/-- A database that compares integers with integers and texts with texts. -/
private def simple : Collation where
  compare
    | .int left, .int right => some (Ord.compare left.toInt right.toInt)
    | .text left, .text right => some (Ord.compare left right)
    | _, _ => none
  null_left := fun _ => rfl
  null_right := fun value => by cases value <;> rfl

private def five : ColumnRef → Value := fun _ => .int 5

/-- A number that is in a list is not outside of it. -/
theorem opposites_complement_five :
    let positive : Condition := .inList [.int 3, .int 5]
    let negative : Condition := .notInList [.int 3, .int 5]
    Opposite positive negative ∧
      (∀ name ∈ (ColumnRef.bare "id").names, Name.fault? name = none) ∧
      (∀ operand ∈ positive.operands, simple.Comparable (five (.bare "id")) operand) ∧
      (∃ first second, (positive.fragment (.bare "id")).statement = .ok first ∧
        (negative.fragment (.bare "id")).statement = .ok second ∧
        ((first.truth? simple five = some .yes ∧ second.truth? simple five = some .no) ∨
          (first.truth? simple five = some .no ∧ second.truth? simple five = some .yes))) ∧
      Statement.truth? simple five ⟨"\x60id\x60 IN (?, ?)", [.int 3, .int 5]⟩ = some .yes ∧
      Statement.truth? simple five ⟨"\x60id\x60 NOT IN (?, ?)", [.int 3, .int 5]⟩ = some .no := by
  intro positive negative
  have opposite : Opposite positive negative := .membership _
  have quotable : ∀ name ∈ (ColumnRef.bare "id").names, Name.fault? name = none :=
    List.forall_mem_singleton.2 rfl
  have comparable : ∀ operand ∈ positive.operands,
      simple.Comparable (five (.bare "id")) operand := by
    simp only [positive, operands, List.forall_mem_cons]
    exact ⟨rfl, rfl, List.forall_mem_nil _⟩
  obtain ⟨first, second, written, denied, one, -⟩ :=
    opposites_complement opposite quotable comparable
  exact ⟨opposite, quotable, comparable,
    ⟨first, second, written, denied, one (List.cons_ne_nil _ _)⟩, by decide +kernel,
    by decide +kernel⟩

/-- A list without operands is written as null, and the number is neither in it nor not in it. -/
theorem empty_list_neither :
    let first : Statement := ⟨"\x60id\x60 IN (NULL)", []⟩
    let second : Statement := ⟨"\x60id\x60 NOT IN (NULL)", []⟩
    Opposite (.inList []) (.notInList []) ∧ five (.bare "id") ≠ .null ∧
      (∀ operand ∈ ([] : List Value), simple.Comparable (five (.bare "id")) operand) ∧
      ((inList []).fragment (.bare "id")).statement = .ok first ∧
      ((notInList []).fragment (.bare "id")).statement = .ok second ∧
      first.truth? simple five ≠ some .yes ∧ second.truth? simple five ≠ some .yes := by
  refine ⟨.membership [], nofun, List.forall_mem_nil _, rfl, rfl, ?_, ?_⟩
  · decide +kernel
  · decide +kernel

end Condition

end EntityMapper
