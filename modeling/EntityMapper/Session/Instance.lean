import EntityMapper.Session.Entities

set_option autoImplicit false

/-! Writing single instances: all columns are checked before the first statement is sent, and
unique ones are looked up before the row is written. -/

namespace EntityMapper

/-- A computation on an instance, which may fail; what it changed until then stays changed. -/
abbrev Writing (σ : Type) := ExceptT Error (StateM (Entity × World σ))

namespace Writing

variable {σ : Type}

def ofSession {α : Type} (session : Session σ α) : Writing σ α := fun (entity, world) =>
  let (result, next) := session world
  (result, (entity, next))

instance : MonadLift (Session σ) (Writing σ) := ⟨fun session => ofSession session⟩

def current : Writing σ Entity := fun state => (.ok state.1, state)

def replace (entity : Entity) : Writing σ Unit := fun (_, world) => (.ok (), (entity, world))

end Writing

namespace Database

variable {σ : Type}

/-- The filter for other rows that hold the value of a unique column. -/
def takenFilter (entity : Entity) (column : Column) (value : Value) (mode : WriteMode) :
    Filter :=
  let holders := [Criterion.column (.bare column.storage) (.equals value)]
  match mode, entity.primaryKey? with
  | .update, some key =>
      holders ++ [.column (.bare entity.schema.primaryKey.storage) (.ne key)]
  | _, _ => holders

/-- Whether another row holds the value of a unique column. -/
def isTaken (db : Database σ) (entity : Entity) (column : Column) (value : Value)
    (mode : WriteMode) : Session σ Bool := do
  let statement ←
    (Query.findOne (.named entity.schema.table) (takenFilter entity column value mode)
      default).statement
  let response ← db.run "unique" (some entity.schema.name) statement false
  return !response.rows.isEmpty

/-- The unique columns that have a value, in the order of their declaration. -/
def uniqueValues (entity : Entity) : List (Column × Value) :=
  (entity.schema.columns.filter Column.unique).filterMap fun column =>
    ((entity.get? column.field).filter fun value => !value.isNull).map fun value =>
      (column, value)

/-- Looks up unique columns, and collects those whose value is taken. -/
def collectTaken (db : Database σ) (entity : Entity) (mode : WriteMode) :
    List (Column × Value) → FieldErrors → Session σ FieldErrors
  | [], errors => pure errors
  | (column, value) :: rest, errors => do
      let taken ← db.isTaken entity column value mode
      collectTaken db entity mode rest
        (if taken then errors.add column.field .unique else errors)

/-- Fails if some column cannot be written. -/
def checkEntity (db : Database σ) (entity : Entity) (mode : WriteMode) : Session σ Unit := do
  let faults := entity.faults mode
  if !faults.isEmpty then throw (.validation faults)
  let taken ← db.collectTaken entity mode (uniqueValues entity) .empty
  if !taken.isEmpty then throw (.validation taken)

/-- The values of a new row: a key only if it is set. -/
def insertedValues (entity : Entity) : List (String × Value) :=
  (entity.schema.columns.filter fun column =>
    !column.primaryKey || !(entity.value column.field).isNull).map fun column =>
      (column.storage, entity.value column.field)

/-- The values of a changed row: all but the key. -/
def updatedValues (entity : Entity) : List (String × Value) :=
  (entity.schema.columns.filter fun column => !column.primaryKey).map fun column =>
    (column.storage, entity.value column.field)

/-- The filter for the row of a key. -/
def keyFilter (schema : EntitySchema) (key : Value) : Filter :=
  [.column (.bare schema.primaryKey.storage) (.equals key)]

/-- The key that the database made, as a value. -/
def generatedKey (key : UInt64) : Result Value :=
  if key.toNat ≤ 9223372036854775807 then .ok (.int (Int64.ofNat key.toNat))
  else .error (.execution (.keyTooLarge key) none)

/-- The instance with the key that the database made, if it had none. -/
def withGeneratedKey (entity : Entity) (made : Option UInt64) : Result Entity :=
  match entity.primaryKey?, made with
  | none, some key => do
      let value ← generatedKey key
      entity.set entity.schema.primaryKey.field value
  | _, _ => .ok entity

/-- Inserts a new instance. -/
def insert (db : Database σ) : Writing σ Unit := do
  let entity ← Writing.current
  if entity.state ≠ .new then
    throw (.query (.notInsertable entity.state entity.typeName))
  db.checkEntity entity .insert
  let response ← Writing.ofSession do
    let fragment ← Query.insert entity.schema.table (insertedValues entity)
    let statement ← fragment.statement
    db.run "insert" (some entity.schema.name) statement false
  let keyed ← Writing.ofSession (withGeneratedKey entity response.insertId)
  Writing.replace (keyed.withState .persisted)

/-- Fails for an instance that has been removed. -/
def checkLive (entity : Entity) : Except QueryFault Unit :=
  if entity.state = .deleted then .error (.removed entity.typeName) else .ok ()

/-- Writes all columns of an instance but its key. -/
def update (db : Database σ) : Writing σ Unit := do
  let entity ← Writing.current
  Writing.ofSession do
    checkLive entity
    db.checkEntity entity .update
    let fragment ← Query.update entity.schema.table (updatedValues entity)
      (keyFilter entity.schema (entity.primaryKey?.getD .null))
    let statement ← fragment.statement
    let _ ← db.run "update" (some entity.schema.name) statement false
  Writing.replace (entity.withState .persisted)

/-- Removes the row of an instance. -/
def remove (db : Database σ) : Writing σ Unit := do
  let entity ← Writing.current
  Writing.ofSession do
    checkLive entity
    match entity.primaryKey? with
    | none =>
        throw (.validation (FieldErrors.empty.add entity.schema.primaryKey.field .required))
    | some key =>
        let statement ←
          (Query.delete entity.schema.table (keyFilter entity.schema key)).statement
        let _ ← db.run "delete" (some entity.schema.name) statement false
  Writing.replace (entity.withState .deleted)

end Database

end EntityMapper
