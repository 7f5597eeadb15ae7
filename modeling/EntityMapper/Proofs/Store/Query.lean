import EntityMapper.Entity.Record
import EntityMapper.Plan.EntityQuery

set_option autoImplicit false

/-! What queries mean on tables: the rows that inner joins leave, in an order that the query asks
for. -/

namespace EntityMapper

/-- The rows of tables, and how their values are compared. -/
structure Store where
  rows : String → List Record
  /-- Whether a join takes two values for equal. -/
  equal : Value → Value → Bool
  /-- Whether a value stands before another one in an ascending order. -/
  before : Value → Value → Bool
  /-- No value is equal to two integers. -/
  equal_int : ∀ {value : Value} {left right : Int64}, equal value (.int left) = true →
    equal value (.int right) = true → left = right
  before_int : ∀ left right : Int64, before (.int left) (.int right) = decide (left < right)

/-- The value of a column, null where it is missing. -/
def Record.value (record : Record) (column : String) : Value := (record.get? column).getD .null

namespace Row

def value (row : Row) (column : ColumnRef) : Value :=
  ((row.get? (column.table.getD flatLabel)).map fun record => record.value column.column).getD .null

/-- What is handed over of a row: the slices of the tables that are selected, or the columns of all
tables in one slice. -/
def selected (items : List SelectItem) (row : Row) : Row :=
  if items.isEmpty then .flat (Keyed.ofList (row.entries.flatMap fun entry => entry.2.entries))
  else Keyed.ofList (items.filterMap fun item =>
    item.table.bind fun label => (row.get? label).map fun record => (label, record))

end Row

namespace Store

/-- Rows beside the rows of a further table with which they meet the condition of an inner join. -/
def join (store : Store) (rows : List Row) (join : Join) : List Row :=
  rows.flatMap fun row =>
    ((store.rows join.table.table).map fun record => row.insert join.table.label record).filter
      fun row => store.equal (row.value join.left) (row.value join.right)

/-- The rows of a table with those that are joined to them, in any order. -/
def joined (store : Store) (table : TableRef) (joins : List Join) : List Row :=
  joins.foldl store.join
    ((store.rows table.table).map fun record => Keyed.empty.insert table.label record)

/-- Whether an order puts a row before another one. -/
def precedes (store : Store) : List OrderBy → Row → Row → Bool
  | [], _, _ => false
  | entry :: rest, left, right =>
      let first := left.value entry.column
      let second := right.value entry.column
      match entry.direction with
      | .ascending =>
          store.before first second ||
            (!store.before second first && precedes store rest left right)
      | .descending =>
          store.before second first ||
            (!store.before first second && precedes store rest left right)

/-- The rows are an answer to a query without a condition, before a page is cut from it. -/
def Answers (store : Store) (table : TableRef) (options : FindOptions) (rows : List Row) :
    Prop :=
  ∃ joined : List Row, joined.Perm (store.joined table options.joins) ∧
    (joined.Pairwise fun left right =>
      store.precedes options.orderBy right left = false) ∧
    rows = joined.map (Row.selected options.select)

end Store

namespace EntityQuery

/-- What a query for entities asks the store for. -/
def findOptions (config : Config) (resolution : Resolution) (options : EntityOptions) :
    FindOptions :=
  { select := selection resolution.plan
    joins := resolution.joins
    groupBy := options.groupBy.map resolution.mapColumn
    orderBy := order config resolution options.orderBy
    page := none }

theorem fragment_eq (config : Config) (resolution : Resolution) (filter : Filter)
    (options : EntityOptions) (single : Bool) :
    fragment config resolution filter options single =
      Query.paged (.named resolution.plan.root.schema.table)
        (Filter.mapColumns resolution.mapColumn filter) (findOptions config resolution options)
        (page config resolution.plan single options.page) := rfl

end EntityQuery

end EntityMapper
