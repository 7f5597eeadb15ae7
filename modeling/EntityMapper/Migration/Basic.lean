import EntityMapper.Session.Rows

set_option autoImplicit false

/-! Migrations: changes of the tables that are applied in order, recorded in a table of their
own, and undone from the last one on. -/

namespace EntityMapper

/-- A change of the tables that can be undone. -/
structure Migration (σ : Type) where
  /-- The name under which the change is recorded. -/
  name : String
  up : Database σ → Session σ Unit
  down : Database σ → Session σ Unit

namespace Migration

variable {σ : Type}

/-- The table that records migrations. -/
def historyTable : String := "db_migration_history"

def nameColumn : String := "migration_name"

def timeColumn : String := "implemented_at"

def keyColumn : String := "id"

def info (fields : List (String × LogValue)) (message : String) : Session σ Unit :=
  Session.log ⟨.info, "tydb.migrate", fields ++ [("message", .text message)]⟩

/-- Logs that a step failed. -/
def logFailure (name : String) (error : Error) : Session σ Unit :=
  Session.log ⟨.error, "tydb.migrate",
    [("migration", .text name), ("error", .text error.message),
      ("message", .text ("Migration '" ++ name ++ "' has errors!"))]⟩

/-- A column with no attributes but those of a key, if it is one. -/
def historyColumn (name : String) (type : DataType) (isKey : Bool) : TableColumn :=
  ⟨name, type, ⟨none, none, false, isKey, false, isKey, none⟩⟩

/-- Creates the table that records migrations, if there is none. -/
def prepare (db : Database σ) : Session σ Unit := do
  info [] "Checking database migration settings..."
  let fragment ← Table.create historyTable true
    [historyColumn keyColumn .int true, historyColumn nameColumn .text false,
      historyColumn timeColumn .dateTime false]
  let statement ← fragment.statement
  let _ ← db.runStatement statement

def nameFilter (name : String) : Filter :=
  [.column (.bare nameColumn) (.equals (.text name))]

/-- The record of a migration, if it is applied. -/
def record? (db : Database σ) (name : String) : Session σ (Option Record) :=
  db.findOne (.named historyTable) (nameFilter name) default

/-- Runs a step, and logs it if it fails. -/
def attempt (name : String) (step : Session σ Unit) : Session σ Unit :=
  tryCatch step fun error => do
    logFailure name error
    throw error

/-- The current time, for the record of a migration. -/
def currentTime : Session σ DateTime := fun world => (.ok world.supply.now, world)

/-- Applies a migration that is not recorded, and records it. -/
def apply (db : Database σ) (migration : Migration σ) : Session σ Unit := do
  attempt migration.name (migration.up db)
  let now ← currentTime
  let _ ← db.insertInto historyTable
    [(nameColumn, .text migration.name), (timeColumn, .dateTime now)]
  info [("migration", .text migration.name)]
    ("Migration '" ++ migration.name ++ "' implemented successfully!")

/-- Applies all migrations that are not recorded, up to the first that fails. -/
def applyAll (db : Database σ) : List (Migration σ) → Session σ Unit
  | [] => info [] "Database is up to date!"
  | migration :: rest => do
      if (← record? db migration.name).isNone then apply db migration
      applyAll db rest

def migrate (db : Database σ) (migrations : List (Migration σ)) : Session σ Unit :=
  applyAll db migrations

/-- The filter for a record: by its key, or by name if it has none. -/
def recordFilter (name : String) (record : Record) : Filter :=
  match record.get? keyColumn with
  | some key =>
      if key.isNull then nameFilter name else [.column (.bare keyColumn) (.equals key)]
  | none => nameFilter name

/-- Undoes a recorded migration, and removes its record. -/
def undo (db : Database σ) (migration : Migration σ) (record : Record) : Session σ Unit := do
  attempt migration.name (migration.down db)
  info [("migration", .text migration.name)]
    ("Migration '" ++ migration.name ++ "' rollbacked successfully!")
  let _ ← db.deleteWhere historyTable (recordFilter migration.name record)

/-- Undoes the first of the migrations that is recorded. -/
def undoFirst (db : Database σ) : List (Migration σ) → Session σ Unit
  | [] => info [] "Done"
  | migration :: rest => do
      match ← record? db migration.name with
      | none => undoFirst db rest
      | some record =>
          undo db migration record
          info [] "Done"

/-- Undoes the last migration that is applied. -/
def rollback (db : Database σ) (migrations : List (Migration σ)) : Session σ Unit :=
  undoFirst db migrations.reverse

end Migration

end EntityMapper
