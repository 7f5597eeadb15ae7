import EntityMapper.Filter.Basic

set_option autoImplicit false

/-! What filters and written conditions mean, with the three truth values that comparisons with
null need. -/

namespace EntityMapper

/-- What a condition comes to on a row. -/
inductive Truth where
  | no
  | unknown
  | yes
deriving DecidableEq, Repr

namespace Truth

def both : Truth → Truth → Truth
  | .no, _ => .no
  | _, .no => .no
  | .yes, other => other
  | .unknown, _ => .unknown

def either : Truth → Truth → Truth
  | .yes, _ => .yes
  | _, .yes => .yes
  | .no, other => other
  | .unknown, _ => .unknown

@[simp] theorem both_assoc (first second third : Truth) :
    both (both first second) third = both first (both second third) := by
  cases first <;> cases second <;> cases third <;> rfl

end Truth

/-- What each condition on a column comes to. -/
abbrev Assignment := ColumnRef → Condition → Truth

/-- A condition as it is read from a statement. -/
inductive Expression where
  | atom (column : ColumnRef) (condition : Condition)
  | both (left right : Expression)
  | either (left right : Expression)

namespace Expression

def value (truth : Assignment) : Expression → Truth
  | .atom column condition => truth column condition
  | .both left right => (left.value truth).both (right.value truth)
  | .either left right => (left.value truth).either (right.value truth)

end Expression

namespace Filter

mutual

/-- The conditions of a criterion, at any depth. -/
def criterionConditions : Criterion → List (ColumnRef × Condition)
  | .column column condition => [(column, condition)]
  | .conjunction filters => groupConditions filters
  | .disjunction filters => groupConditions filters

/-- The conditions of a filter, at any depth. -/
def conditions : List Criterion → List (ColumnRef × Condition)
  | [] => []
  | criterion :: rest => criterionConditions criterion ++ conditions rest

def groupConditions : List (List Criterion) → List (ColumnRef × Condition)
  | [] => []
  | filter :: rest => conditions filter ++ groupConditions rest

end

mutual

/-- What a criterion comes to; none if it has no condition at any depth. -/
def criterionValue? (truth : Assignment) : Criterion → Option Truth
  | .column column condition => some (truth column condition)
  | .conjunction filters => groupValue? truth .both filters
  | .disjunction filters => groupValue? truth .either filters

/-- All criteria of a filter have to hold; those without a condition are left out. -/
def value? (truth : Assignment) : List Criterion → Option Truth
  | [] => none
  | criterion :: rest =>
      Option.merge Truth.both (criterionValue? truth criterion) (value? truth rest)

/-- The values of several filters, combined; filters without a condition are left out. -/
def groupValue? (truth : Assignment) (combine : Truth → Truth → Truth) :
    List (List Criterion) → Option Truth
  | [] => none
  | filter :: rest =>
      Option.merge combine (value? truth filter) (groupValue? truth combine rest)

end

end Filter

end EntityMapper
