import EntityMapper.Session.Basic
import EntityMapper.Statement.Query

set_option autoImplicit false

/-! Operations on the rows of tables. -/

namespace EntityMapper.Database

variable {σ : Type}

/-- The rows of a table that pass a filter, of the page asked for or of the first one. -/
def find (db : Database σ) (table : TableRef) (filter : Filter) (options : FindOptions) :
    Session σ (List Record) := do
  let page := options.page.getD ⟨1, db.config.pageSize⟩
  let statement ← (Query.find table filter { options with page := some page }).statement
  let response ← db.run "find" none statement false
  return response.flatRows

/-- The first row of a table that passes a filter. -/
def findOne (db : Database σ) (table : TableRef) (filter : Filter) (options : FindOptions) :
    Session σ (Option Record) := do
  let statement ← (Query.findOne table filter options).statement
  let response ← db.run "find_one" none statement false
  return response.flatRows.head?

/-- The first of the slices of a row that has a total. -/
def totalOf? (row : Row) : Option Value :=
  row.entries.findSome? fun entry => entry.2.get? Query.totalName

/-- The total that a count returns, zero if it returns no row. -/
def readTotal (response : Response) : Result Int64 :=
  match response.rows with
  | [] => .ok 0
  | row :: _ =>
      match totalOf? row with
      | none => .error (.decode Query.totalName .noTotal)
      | some total =>
          total.toUnsigned64.mapError fun fault => .decode Query.totalName (.extraction fault)

/-- The number of rows of a table that pass a filter. -/
def count (db : Database σ) (table : TableRef) (filter : Filter) (options : CountOptions) :
    Session σ Int64 := do
  let statement ← (Query.count table filter options).statement
  let response ← db.run "count" none statement false
  readTotal response

/-- Adds a row to a table. -/
def insertInto (db : Database σ) (table : String) (values : List (String × Value)) :
    Session σ Response := do
  let fragment ← Query.insert table values
  let statement ← fragment.statement
  db.run "insert" none statement false

/-- Sets columns of the rows that pass a filter; returns how many they were. -/
def updateWhere (db : Database σ) (table : String) (values : List (String × Value))
    (filter : Filter) : Session σ UInt64 := do
  let fragment ← Query.update table values filter
  let statement ← fragment.statement
  return (← db.run "update" none statement false).affected

/-- Fails for a removal without a filter, where the settings ask for one. -/
def checkDeleteFilter (db : Database σ) (table : String) (filter : Filter) :
    Except QueryFault Unit :=
  if db.config.requiresDeleteFilter && filter.isEmpty then .error (.unfilteredDelete table)
  else .ok ()

/-- Removes the rows that pass a filter; returns how many they were. -/
def deleteWhere (db : Database σ) (table : String) (filter : Filter) : Session σ UInt64 := do
  db.checkDeleteFilter table filter
  let statement ← (Query.delete table filter).statement
  return (← db.run "delete" none statement false).affected

/-- Runs a statement that is given as a whole. -/
def runStatement (db : Database σ) (statement : Statement) : Session σ Response :=
  db.run "run" none statement false

end EntityMapper.Database
