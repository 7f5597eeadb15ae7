import EntityMapper.Reference.Column

set_option autoImplicit false

/-! Descriptions of the rows that a statement is about. -/

namespace EntityMapper

/-- What has to hold of the value of a column. -/
inductive Condition where
  | isNull
  | eq (value : Value)
  | ne (value : Value)
  | gt (value : Value)
  | gte (value : Value)
  | lt (value : Value)
  | lte (value : Value)
  | is (value : Value)
  | isNot (value : Value)
  | between (least greatest : Value)
  | notBetween (least greatest : Value)
  | inList (values : List Value)
  | notInList (values : List Value)
  | like (pattern : Value)
  | notLike (pattern : Value)

namespace Condition

/-- The values that a condition compares with, in the order in which they are bound. -/
def operands : Condition → List Value
  | .isNull => []
  | .eq value => [value]
  | .ne value => [value]
  | .gt value => [value]
  | .gte value => [value]
  | .lt value => [value]
  | .lte value => [value]
  | .is value => [value]
  | .isNot value => [value]
  | .between least greatest => [least, greatest]
  | .notBetween least greatest => [least, greatest]
  | .inList values => values
  | .notInList values => values
  | .like pattern => [pattern]
  | .notLike pattern => [pattern]

/-- The number of placeholders that a condition adds. -/
def paramCount : Condition → Nat
  | .isNull => 0
  | .between _ _ | .notBetween _ _ => 2
  | .inList values | .notInList values => values.length
  | _ => 1

/-- Equality with a value; with null, the absence of one. -/
def equals (value : Value) : Condition := if value.isNull then .isNull else .eq value

end Condition

/-- A part of a filter: a condition on a column, filters that all have to hold, or filters of
which one has to hold. -/
inductive Criterion where
  | column (column : ColumnRef) (condition : Condition)
  | conjunction (filters : List (List Criterion))
  | disjunction (filters : List (List Criterion))

/-- Criteria that all have to hold, in the order in which they are written. -/
abbrev Filter := List Criterion

namespace Filter

/-- The filter that every row passes. -/
def empty : Filter := []

mutual

/-- The values that a criterion binds, in the order of their placeholders. -/
def criterionOperands : Criterion → List Value
  | .column _ condition => condition.operands
  | .conjunction filters => groupOperands filters
  | .disjunction filters => groupOperands filters

/-- The values that a filter binds, in the order of their placeholders. -/
def operands : List Criterion → List Value
  | [] => []
  | criterion :: rest => criterionOperands criterion ++ operands rest

def groupOperands : List (List Criterion) → List Value
  | [] => []
  | filter :: rest => operands filter ++ groupOperands rest

end

mutual

/-- The number of placeholders that a criterion adds. -/
def criterionParamCount : Criterion → Nat
  | .column _ condition => condition.paramCount
  | .conjunction filters => groupParamCount filters
  | .disjunction filters => groupParamCount filters

/-- The number of placeholders that a filter needs, counted clause by clause. -/
def paramCount : List Criterion → Nat
  | [] => 0
  | criterion :: rest => criterionParamCount criterion + paramCount rest

def groupParamCount : List (List Criterion) → Nat
  | [] => 0
  | filter :: rest => paramCount filter + groupParamCount rest

end

mutual

/-- Replaces the column of every condition of a criterion. -/
def mapCriterionColumns (change : ColumnRef → ColumnRef) : Criterion → Criterion
  | .column column condition => .column (change column) condition
  | .conjunction filters => .conjunction (mapGroupColumns change filters)
  | .disjunction filters => .disjunction (mapGroupColumns change filters)

/-- Replaces the column of every condition, at any depth. -/
def mapColumns (change : ColumnRef → ColumnRef) : List Criterion → List Criterion
  | [] => []
  | criterion :: rest => mapCriterionColumns change criterion :: mapColumns change rest

def mapGroupColumns (change : ColumnRef → ColumnRef) :
    List (List Criterion) → List (List Criterion)
  | [] => []
  | filter :: rest => mapColumns change filter :: mapGroupColumns change rest

end

end Filter

end EntityMapper
