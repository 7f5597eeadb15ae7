import EntityMapper.Proofs.Filter.Operands
import EntityMapper.Proofs.Filter.Outline
import Mathlib.Data.List.Forall2

set_option autoImplicit false

/-! Filters that can stand for each other: they have the same conditions, and neither the order of
these nor their grouping into conjunctions matters. -/

namespace EntityMapper

open Fragment

namespace Truth

instance : Std.Associative both := ⟨both_assoc⟩

instance : Std.Commutative both :=
  ⟨fun first second => by cases first <;> cases second <;> rfl⟩

end Truth

/-- What the condition behind the `WHERE` of a statement comes to; none if there is no condition. -/
def Statement.value? (truth : Assignment) (statement : Statement) : Option Truth :=
  (statement.condition? false).map fun expression => expression.value truth

namespace Filter

theorem conditions_append (left right : Filter) :
    conditions (left ++ right) = conditions left ++ conditions right := by
  induction left with
  | nil => rfl
  | cons criterion rest ih => rw [List.cons_append, conditions, conditions, ih, List.append_assoc]

theorem value?_append (truth : Assignment) (left right : Filter) :
    value? truth (left ++ right) =
      Option.merge .both (value? truth left) (value? truth right) := by
  induction left with
  | nil => rw [List.nil_append, value?, Option.merge_none_left]
  | cons criterion rest ih =>
      rw [List.cons_append, value?, value?, ih]
      ac_rfl

theorem groupConditions_eq_flatten (filters : List Filter) :
    groupConditions filters = conditions filters.flatten := by
  induction filters with
  | nil => rfl
  | cons filter rest ih => rw [groupConditions, List.flatten_cons, conditions_append, ih]

theorem groupValue?_eq_flatten (truth : Assignment) (filters : List Filter) :
    groupValue? truth .both filters = value? truth filters.flatten := by
  induction filters with
  | nil => rfl
  | cons filter rest ih => rw [groupValue?, List.flatten_cons, value?_append, ih]

theorem value?_perm (truth : Assignment) {left right : Filter} (reordered : left.Perm right) :
    value? truth left = value? truth right := by
  induction reordered with
  | nil => rfl
  | cons criterion reordered ih => rw [value?, value?, ih]
  | swap first second rest =>
      rw [value?, value?, value?, value?]
      ac_rfl
  | trans first second ihFirst ihSecond => exact ihFirst.trans ihSecond

theorem conditions_perm {left right : Filter} (reordered : left.Perm right) :
    (conditions left).Perm (conditions right) := by
  induction reordered with
  | nil => exact .nil
  | cons criterion reordered ih => exact ih.append_left _
  | swap first second rest =>
      rw [conditions, conditions, conditions, conditions, ← List.append_assoc, ← List.append_assoc]
      exact List.perm_append_comm.append_right _
  | trans first second ihFirst ihSecond => exact ihFirst.trans ihSecond

mutual

theorem criterionOperands_eq_flatMap : (criterion : Criterion) →
    criterionOperands criterion =
      (criterionConditions criterion).flatMap fun entry => entry.2.operands
  | .column column condition => by
      rw [criterionOperands, criterionConditions, List.flatMap_singleton]
  | .conjunction filters => groupOperands_eq_flatMap filters
  | .disjunction filters => groupOperands_eq_flatMap filters

theorem operands_eq_flatMap : (filter : List Criterion) →
    operands filter = (conditions filter).flatMap fun entry => entry.2.operands
  | [] => rfl
  | criterion :: rest => by
      rw [operands, conditions, List.flatMap_append, criterionOperands_eq_flatMap criterion,
        operands_eq_flatMap rest]

theorem groupOperands_eq_flatMap : (filters : List (List Criterion)) →
    groupOperands filters = (groupConditions filters).flatMap fun entry => entry.2.operands
  | [] => rfl
  | filter :: rest => by
      rw [groupOperands, groupConditions, List.flatMap_append, operands_eq_flatMap filter,
        groupOperands_eq_flatMap rest]

end

/-- Two filters with the same conditions, in any order, that come to the same. -/
structure Agree (left right : Filter) : Prop where
  conditions : (conditions left).Perm (conditions right)
  meaning : ∀ truth, value? truth left = value? truth right

namespace Agree

variable {left right : Filter}

theorem refl (filter : Filter) : Agree filter filter := ⟨.refl _, fun _ => rfl⟩

theorem symm (agree : Agree left right) : Agree right left :=
  ⟨agree.conditions.symm, fun truth => (agree.meaning truth).symm⟩

theorem trans {middle : Filter} (first : Agree left middle) (second : Agree middle right) :
    Agree left right :=
  ⟨first.conditions.trans second.conditions,
    fun truth => (first.meaning truth).trans (second.meaning truth)⟩

theorem of_perm (reordered : left.Perm right) : Agree left right :=
  ⟨conditions_perm reordered, fun truth => value?_perm truth reordered⟩

theorem append {following others : Filter} (first : Agree left right)
    (second : Agree following others) : Agree (left ++ following) (right ++ others) := by
  refine ⟨?_, fun truth => ?_⟩
  · rw [conditions_append, conditions_append]
    exact first.conditions.append second.conditions
  · rw [value?_append, value?_append, first.meaning, second.meaning]

/-- A conjunction is nothing but the criteria of its filters. -/
theorem conjunction (filters : List Filter) : Agree [.conjunction filters] filters.flatten := by
  refine ⟨?_, fun truth => ?_⟩
  · rw [Filter.conditions, criterionConditions, Filter.conditions, List.append_nil,
      groupConditions_eq_flatten]
  · rw [value?, criterionValue?, value?, Option.merge_none_right, groupValue?_eq_flatten]

theorem conjunction_append (left right : List Filter) :
    Agree [.conjunction (left ++ right)] [.conjunction left, .conjunction right] := by
  have whole := conjunction (left ++ right)
  rw [List.flatten_append] at whole
  exact whole.trans ((conjunction left).append (conjunction right)).symm

private theorem groups {lefts rights : List Filter} (each : List.Forall₂ Agree lefts rights) :
    (groupConditions lefts).Perm (groupConditions rights) ∧
      ∀ truth combine, groupValue? truth combine lefts = groupValue? truth combine rights := by
  induction each with
  | nil => exact ⟨.nil, fun _ _ => rfl⟩
  | cons first others ih =>
      refine ⟨first.conditions.append ih.1, fun truth combine => ?_⟩
      rw [groupValue?, groupValue?, first.meaning, ih.2]

theorem conjunctions {lefts rights : List Filter} (each : List.Forall₂ Agree lefts rights) :
    Agree [.conjunction lefts] [.conjunction rights] := by
  refine ⟨(groups each).1.append_right [], fun truth => ?_⟩
  exact congrArg (Option.merge .both · none) ((groups each).2 truth .both)

theorem disjunctions {lefts rights : List Filter} (each : List.Forall₂ Agree lefts rights) :
    Agree [.disjunction lefts] [.disjunction rights] := by
  refine ⟨(groups each).1.append_right [], fun truth => ?_⟩
  exact congrArg (Option.merge .both · none) ((groups each).2 truth .either)

end Agree

/-- A clause can be written iff the columns of all conditions can be quoted. -/
theorem fault?_clause_eq_none (filter : Filter) :
    (clause filter).fault? = none ↔
      ∀ entry ∈ conditions filter, ∀ name ∈ entry.1.names, Name.fault? name = none := by
  simp only [fault?_eq_none_iff, names_clause, List.mem_flatMap, forall_exists_index, and_imp]
  exact ⟨fun sound entry member name named => sound name entry member named,
    fun sound name entry member named => sound entry member name named⟩

/-- The clause of a filter is read as a condition that comes to what the filter comes to. -/
theorem value?_of_clause {filter : Filter} {statement : Statement}
    (success : (clause filter).statement = .ok statement) (truth : Assignment) :
    statement.value? truth = value? truth filter := by
  by_cases vacant : conditions filter = []
  · rw [clause_of_vacant vacant] at success
    obtain rfl := Except.ok.inj success
    rw [(value?_eq_none truth filter).2 vacant]
    rfl
  · have legible := legible_condition filter
    have level : Level (topTerms filter) (value? · filter) := (reads_terms filter).2
    rw [clause_of_occupied vacant] at success
    generalize topTerms filter = terms at level legible success
    cases level with
    | nothing nothing => exact absurd ((value?_eq_none truth filter).1 (nothing truth)) vacant
    | @written terms expression meaning occupied reads value =>
        rw [Statement.value?, condition?_surrounded false legible reads success]
        exact (value truth).symm

/-- Filters of which one can stand for the other: if the clause of one can be written, so can that
of the other, and they come to the same and bind the same values, in any order. -/
structure Interchangeable (left right : Filter) : Prop where
  written : (∃ statement, (clause left).statement = .ok statement) ↔
    ∃ statement, (clause right).statement = .ok statement
  meaning : ∀ first second, (clause left).statement = .ok first →
    (clause right).statement = .ok second → ∀ truth,
      first.value? truth = value? truth left ∧ second.value? truth = value? truth left
  params : ∀ first second, (clause left).statement = .ok first →
    (clause right).statement = .ok second → first.params.Perm second.params

theorem Agree.interchangeable {left right : Filter} (agree : Agree left right) :
    Interchangeable left right where
  written := by
    have together : (clause left).fault? = none ↔ (clause right).fault? = none := by
      rw [fault?_clause_eq_none, fault?_clause_eq_none]
      exact forall_congr' fun entry => imp_congr_left agree.conditions.mem_iff
    constructor
    · rintro ⟨statement, success⟩
      exact ⟨_, statement_of_sound (together.1 (statement_eq_ok success).1)⟩
    · rintro ⟨statement, success⟩
      exact ⟨_, statement_of_sound (together.2 (statement_eq_ok success).1)⟩
  meaning first second success other truth :=
    ⟨value?_of_clause success truth,
      (value?_of_clause other truth).trans (agree.meaning truth).symm⟩
  params first second success other := by
    obtain ⟨-, rfl⟩ := statement_eq_ok success
    obtain ⟨-, rfl⟩ := statement_eq_ok other
    rw [params_clause, params_clause, operands_eq_flatMap, operands_eq_flatMap]
    exact agree.conditions.flatMap_right _

end Filter

end EntityMapper
