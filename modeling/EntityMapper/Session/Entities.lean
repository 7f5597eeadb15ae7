import EntityMapper.Filter.Document
import EntityMapper.Plan.Assembly
import EntityMapper.Plan.EntityQuery
import EntityMapper.Session.Rows
import EntityMapper.Validation.Check

set_option autoImplicit false

/-! Operations on types of entities: finding them, counting them, and changing all that pass a
filter. -/

namespace EntityMapper.Database

variable {σ : Type}

/-- The entities that pass a filter, with others attached. -/
def findEntities (db : Database σ) (entity : String) (filter : Filter)
    (options : EntityOptions) : Session σ (List Entity) := do
  let query ← EntityQuery.find db.registry db.config entity filter options
  let response ← db.run "find" (some entity) query.statement query.grouped
  Session.draw (query.plan.materialize response.rows)

/-- The first entity that passes a filter. -/
def findEntity (db : Database σ) (entity : String) (filter : Filter) (options : EntityOptions) :
    Session σ (Option Entity) := do
  let query ← EntityQuery.findOne db.registry db.config entity filter options
  let response ← db.run "find_one" (some entity) query.statement query.grouped
  Session.draw (query.plan.materializeOne response.rows)

/-- The first entity that passes a filter, or the error that there is none. -/
def findEntityOrFail (db : Database σ) (entity : String) (filter : Filter)
    (options : EntityOptions) : Session σ Entity := do
  match ← db.findEntity entity filter options with
  | some found => return found
  | none =>
      let schema ← db.registry.find entity
      throw (.notFound schema.name schema.primaryKey.field (Filter.toJson filter))

/-- The number of entities that pass a filter. -/
def countEntities (db : Database σ) (entity : String) (filter : Filter) : Session σ Int64 := do
  let statement ← EntityQuery.count db.registry entity filter
  let response ← db.run "count" (some entity) statement false
  readTotal response

/-- The columns for values by field, up to the first name that is no field. Values that fail
their checks are kept apart. -/
def checkedValues (schema : EntitySchema) (entity : String) :
    List (String × Value) → FieldErrors → List (String × Value) →
    Except QueryFault (FieldErrors × List (String × Value))
  | [], errors, values => .ok (errors, values)
  | (field, value) :: rest, errors, values =>
      match schema.column? field with
      | none => .error (.unknownField entity field)
      | some column =>
          match column.check (some value) .update with
          | some reason => checkedValues schema entity rest (errors.add field reason) values
          | none => checkedValues schema entity rest errors (values ++ [(column.storage, value)])

/-- Sets fields of all entities that pass a filter; returns how many they were. -/
def updateAll (db : Database σ) (entity : String) (values : List (String × Value))
    (filter : Filter) : Session σ UInt64 := do
  let schema ← db.registry.find entity
  let (errors, columns) ← checkedValues schema entity values .empty []
  if !errors.isEmpty then throw (.validation errors)
  let fragment ← Query.update schema.table columns (EntityQuery.storageFilter schema filter)
  let statement ← fragment.statement
  return (← db.run "update" (some entity) statement false).affected

/-- Removes all entities that pass a filter; returns how many they were. -/
def removeAll (db : Database σ) (entity : String) (filter : Filter) : Session σ UInt64 := do
  let schema ← db.registry.find entity
  db.checkDeleteFilter schema.table filter
  let statement ←
    (Query.delete schema.table (EntityQuery.storageFilter schema filter)).statement
  return (← db.run "delete" (some entity) statement false).affected

end EntityMapper.Database
