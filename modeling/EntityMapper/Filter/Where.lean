import EntityMapper.Filter.Basic
import EntityMapper.Statement.Fragment

set_option autoImplicit false

/-! Filters as conditions of statements. Groups without a condition vanish; an alternative of
groups is parenthesised where it stands beside other clauses. -/

namespace EntityMapper

namespace Condition

/-- A column, an operator and a bound value. -/
def comparison (column : ColumnRef) (operator : String) (value : Value) : Fragment :=
  .column column ++ .words operator ++ .bind value

/-- A range test in parentheses, as it has an `AND` of its own. -/
def range (column : ColumnRef) (operator : String) (least greatest : Value) : Fragment :=
  .words "(" ++ .column column ++ .words operator ++ .bind least ++ .words " AND " ++
    .bind greatest ++ .words ")"

def membership (column : ColumnRef) (operator : String) (values : List Value) : Fragment :=
  .column column ++ .words operator ++ .bindList values ++ .words ")"

/-- The condition on a column, as statements hold it. -/
def fragment (column : ColumnRef) : Condition → Fragment
  | .isNull => .column column ++ .words " IS NULL"
  | .eq value => comparison column " = " value
  | .ne value => comparison column " <> " value
  | .gt value => comparison column " > " value
  | .gte value => comparison column " >= " value
  | .lt value => comparison column " < " value
  | .lte value => comparison column " <= " value
  | .is value => comparison column " IS " value
  | .isNot value => comparison column " IS NOT " value
  | .between least greatest => range column " BETWEEN " least greatest
  | .notBetween least greatest => range column " NOT BETWEEN " least greatest
  | .inList values => membership column " IN (" values
  | .notInList values => membership column " NOT IN (" values
  | .like pattern => comparison column " LIKE " pattern
  | .notLike pattern => comparison column " NOT LIKE " pattern

end Condition

namespace Filter

def parenthesised (fragment : Fragment) : Fragment := .words "(" ++ fragment ++ .words ")"

/-- Groups of which one has to hold, as one term of its level. -/
def alternative (shared : Bool) (groups : List Fragment) : List Fragment :=
  if groups.isEmpty then []
  else if shared then [parenthesised (.joined " OR " groups)]
  else [.joined " OR " groups]

/-- Terms that all have to hold, as one group; no group for no terms. -/
def group (terms : List Fragment) : List Fragment :=
  if terms.isEmpty then [] else [parenthesised (.joined " AND " terms)]

mutual

/-- The terms of a criterion; `shared` says whether it has others beside it. -/
def criterionTerms (shared : Bool) : Criterion → List Fragment
  | .column column condition => [condition.fragment column]
  | .conjunction filters => groups filters
  | .disjunction filters => alternative shared (groups filters)

/-- The terms of the criteria of one level. -/
def terms (shared : Bool) : List Criterion → List Fragment
  | [] => []
  | criterion :: rest => criterionTerms shared criterion ++ terms shared rest

/-- The filters that have a condition, each as a group. -/
def groups : List (List Criterion) → List Fragment
  | [] => []
  | filter :: rest => group (terms (1 < filter.length) filter) ++ groups rest

end

/-- The terms of a filter. -/
def topTerms (filter : Filter) : List Fragment := terms (1 < filter.length) filter

/-- `WHERE` with the condition, nothing for a filter without conditions. -/
def clause (filter : Filter) : Fragment :=
  if (topTerms filter).isEmpty then .empty
  else .words " WHERE " ++ .joined " AND " (topTerms filter)

/-- The condition as a group among others, nothing for a filter without conditions. -/
def nested (filter : Filter) : Fragment := .joined "" (group (topTerms filter))

end Filter

end EntityMapper
