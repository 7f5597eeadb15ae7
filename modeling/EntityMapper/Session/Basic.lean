import EntityMapper.Entity.Record
import EntityMapper.Monitor.Hook
import EntityMapper.Schema.Registry
import EntityMapper.Config

set_option autoImplicit false

/-! Sessions: statements go to the database one at a time, past the hooks. -/

namespace EntityMapper

/-- What the database returns for a statement. -/
structure Response where
  rows : List Row
  affected : UInt64
  /-- The key that an insert made. -/
  insertId : Option UInt64

namespace Response

def empty : Response := ⟨[], 0, none⟩

instance : Inhabited Response := ⟨empty⟩

/-- The rows that are not split by tables. -/
def flatRows (response : Response) : List Record := response.rows.filterMap Row.flat?

end Response

/-- A database with a state of its own: a statement gives a response or an error, and the next
state. Rows are split by tables on demand. -/
def Executor (σ : Type) : Type := Statement → (grouped : Bool) → σ → Result Response × σ

/-- What a session works with and does not change. -/
structure Database (σ : Type) where
  executor : Executor σ
  registry : Registry
  config : Config
  hook : Option Hook

/-- What a session changes. -/
structure World (σ : Type) where
  database : σ
  monitor : Monitor
  supply : Supply

/-- A computation that may fail; what it did until then stays done. -/
abbrev Session (σ : Type) := ExceptT Error (StateM (World σ))

namespace Session

variable {σ : Type}

/-- A result that needs nothing from the world. -/
def ofResult {α : Type} (result : Result α) : Session σ α := fun world => (result, world)

instance : MonadLift (Except Error) (Session σ) := ⟨fun result => ofResult result⟩

instance : MonadLift (Except QueryFault) (Session σ) :=
  ⟨fun result => ofResult (result.mapError .query)⟩

instance : MonadLift (Except DefinitionFault) (Session σ) :=
  ⟨fun result => ofResult (result.mapError .definition)⟩

/-- Uses up made-up values. -/
def draw {α : Type} (computation : Draw α) : Session σ α := fun world =>
  let (value, supply) := computation world.supply
  (.ok value, { world with supply })

/-- Changes what is known of the past. -/
def monitor (change : Monitor → Monitor) : Session σ Unit := fun world =>
  (.ok (), { world with monitor := change world.monitor })

def log (entry : LogEntry) : Session σ Unit := monitor (Monitor.record (.log entry))

/-- Hands a statement to the database and notes the call. -/
def send (db : Database σ) (statement : Statement) (grouped : Bool) :
    Session σ (Result Response) := fun world =>
  let noted := world.monitor.record (.call statement.text statement.params grouped)
  let (result, database) := db.executor statement grouped world.database
  (.ok (result.mapError (Error.withStatement statement.text)),
    { world with database, monitor := noted })

end Session

namespace Database

variable {σ : Type}

/-- The hooks of the session: the log if it is switched on, and the one installed. -/
def hooks (db : Database σ) : List Hook :=
  (if db.config.logsStatements then [.logger .debug (some db.config.loggedBytes)] else []) ++
    db.hook.toList

/-- What hooks see of the result of a statement. -/
def outcome (kind : StatementKind) : Result Response → Outcome
  | .ok response =>
      if kind = .select then .rows response.rows.length else .affected response.affected
  | .error error => .failure error.message

/-- Tells the hooks of a statement, and fails if one of them refuses it. -/
def announce (db : Database σ) (context : Context) : Session σ Unit := fun world =>
  match Hook.beforeAll context db.hooks world.monitor with
  | (some reason, told) =>
      (.error (.execution (.aborted reason) (some context.text)), { world with monitor := told })
  | (none, told) => (.ok (), { world with monitor := told })

/-- Runs a statement past the hooks. -/
def run (db : Database σ) (tag : String) (entity : Option String) (statement : Statement)
    (grouped : Bool) : Session σ Response := do
  let context := Context.ofStatement statement.text statement.params.length (some tag) entity
  db.announce context
  let result ← Session.send db statement grouped
  Session.monitor (Hook.afterAll context 0 (outcome context.kind result) db.hooks)
  result

end Database

end EntityMapper
