import EntityMapper.Filter.Where
import EntityMapper.Statement.Clause

set_option autoImplicit false

/-! Whole statements on the rows of a table. -/

namespace EntityMapper

/-- What a find returns of the rows that pass its filter. -/
structure FindOptions where
  select : List SelectItem
  joins : List Join
  groupBy : List ColumnRef
  orderBy : List OrderBy
  page : Option Page

namespace FindOptions

instance : Inhabited FindOptions := ⟨⟨[], [], [], [], none⟩⟩

end FindOptions

/-- What a count counts of the rows that pass its filter. -/
structure CountOptions where
  countBy : Option ColumnRef
  joins : List Join
  groupBy : List ColumnRef

namespace CountOptions

instance : Inhabited CountOptions := ⟨⟨none, [], []⟩⟩

end CountOptions

namespace Query

/-- The name under which a count is returned. -/
def totalName : String := "total"

def source (table : TableRef) : Fragment := .words " FROM " ++ .table table

/-- The rows of one page. -/
def paged (table : TableRef) (filter : Filter) (options : FindOptions) (page : Page) : Fragment :=
  SelectItem.clause options.select ++ source table ++ Join.clause options.joins ++
    Filter.clause filter ++ groupByClause options.groupBy ++ OrderBy.clause options.orderBy ++
    page.clause ++ .words ";"

/-- The rows of the page asked for, or of the initial one. -/
def find (table : TableRef) (filter : Filter) (options : FindOptions) : Fragment :=
  paged table filter options (options.page.getD .initial)

/-- The first row. -/
def findOne (table : TableRef) (filter : Filter) (options : FindOptions) : Fragment :=
  paged table filter options .single

/-- What is counted: a column, or rows. -/
def counted : Option ColumnRef → Fragment
  | some column => .column column
  | none => .words Name.wildcard

/-- The number of rows. -/
def count (table : TableRef) (filter : Filter) (options : CountOptions) : Fragment :=
  .words "SELECT COUNT(" ++ counted options.countBy ++ .words ") AS " ++ .name totalName ++
    source table ++ Join.clause options.joins ++ Filter.clause filter ++
    groupByClause options.groupBy ++ .words ";"

/-- The columns of a row to insert, with commas between. -/
def insertColumns (values : List (String × Value)) : Fragment :=
  .joined ", " (values.map fun entry => .name entry.1)

/-- A new row. The names of its columns are checked before the table is. -/
def insert (table : String) (values : List (String × Value)) : Except QueryFault Fragment := do
  let columns ← (insertColumns values).checked
  if values.isEmpty then throw (.noInsertColumns table)
  (Fragment.words "INSERT INTO " ++ .name table ++ .words " (" ++ columns ++
    .words ") VALUES (" ++ .joined ", " (values.map fun entry => .bind entry.2) ++
    .words ");").checked

/-- A column and the value that it gets. -/
def assignment (entry : String × Value) : Fragment :=
  .name entry.1 ++ .words " = " ++ .bind entry.2

/-- New values for the rows that pass a filter. -/
def update (table : String) (values : List (String × Value)) (filter : Filter) :
    Except QueryFault Fragment := do
  let start ← (Fragment.words "UPDATE " ++ .name table).checked
  if values.isEmpty then throw (.noUpdateColumns table)
  (start ++ .listed " SET " (values.map assignment) ++ Filter.clause filter ++
    .words ";").checked

/-- The removal of the rows that pass a filter. -/
def delete (table : String) (filter : Filter) : Fragment :=
  .words "DELETE FROM " ++ .name table ++ Filter.clause filter ++ .words ";"

end Query

end EntityMapper
