import EntityMapper.Proofs.Session.Failure
import EntityMapper.Proofs.Session.Journal

set_option autoImplicit false

/-! The operations of a session, over any sequence of them: hooks that refuse statements and hooks
that count them agree with what the database was handed. -/

namespace EntityMapper

/-- An operation of a session, with all that it is given: on the rows of a table, on the entities of
a type, or on an instance. -/
inductive Command where
  | find (table : TableRef) (filter : Filter) (options : FindOptions)
  | findOne (table : TableRef) (filter : Filter) (options : FindOptions)
  | count (table : TableRef) (filter : Filter) (options : CountOptions)
  | insertInto (table : String) (values : List (String × Value))
  | updateWhere (table : String) (values : List (String × Value)) (filter : Filter)
  | deleteWhere (table : String) (filter : Filter)
  | runStatement (statement : Statement)
  | findEntities (entity : String) (filter : Filter) (options : EntityOptions)
  | findEntity (entity : String) (filter : Filter) (options : EntityOptions)
  | findEntityOrFail (entity : String) (filter : Filter) (options : EntityOptions)
  | countEntities (entity : String) (filter : Filter)
  | updateAll (entity : String) (values : List (String × Value)) (filter : Filter)
  | removeAll (entity : String) (filter : Filter)
  | write (operation : Operation) (entity : Entity)

namespace Command

variable {σ : Type}

/-- What an operation does to the world, and whether it fails. -/
def run (db : Database σ) : Command → Session σ Unit
  | .find table filter options => do let _ ← db.find table filter options
  | .findOne table filter options => do let _ ← db.findOne table filter options
  | .count table filter options => do let _ ← db.count table filter options
  | .insertInto table values => do let _ ← db.insertInto table values
  | .updateWhere table values filter => do let _ ← db.updateWhere table values filter
  | .deleteWhere table filter => do let _ ← db.deleteWhere table filter
  | .runStatement statement => do let _ ← db.runStatement statement
  | .findEntities entity filter options => do let _ ← db.findEntities entity filter options
  | .findEntity entity filter options => do let _ ← db.findEntity entity filter options
  | .findEntityOrFail entity filter options => do let _ ← db.findEntityOrFail entity filter options
  | .countEntities entity filter => do let _ ← db.countEntities entity filter
  | .updateAll entity values filter => do let _ ← db.updateAll entity values filter
  | .removeAll entity filter => do let _ ← db.removeAll entity filter
  | .write operation entity => fun world =>
      let written := operation.run db (entity, world)
      (written.1, written.2.2)

end Command

namespace Database

variable {σ : Type}

namespace Journals

variable {α β : Type}

theorem map {db : Database σ} {session : Session σ α} (begins : db.Journals session)
    (change : α → β) : db.Journals (do return change (← session)) :=
  begins.bind fun _ => .pure _

/-- A statement is written and run, and its response is put to use. -/
theorem run_bind (db : Database σ) (tag : String) (entity : Option String)
    (written : Except QueryFault Statement) {next : Response → Session σ α}
    (continues : ∀ response, db.Journals (next response)) :
    db.Journals (do
      let statement ← written
      let response ← db.run tag entity statement false
      next response) :=
  query_bind fun statement => (Journals.run db tag entity statement false).bind continues

end Journals

section Writes

variable (db : Database σ) (entity : Entity) (mode : WriteMode)

theorem journals_collectTaken (uniques : List (Column × Value)) (errors : FieldErrors) :
    db.Journals (db.collectTaken entity mode uniques errors) := by
  induction uniques generalizing errors with
  | nil => exact .pure errors
  | cons unique rest ih =>
      have lookup : db.Journals (db.isTaken entity unique.1 unique.2 mode) :=
        .run_bind db _ _ _ fun _ => .pure _
      exact lookup.bind fun _ => ih _

theorem journals_checkEntity : db.Journals (db.checkEntity entity mode) := by
  rw [checkEntity]
  cases (entity.faults mode).isEmpty with
  | false => exact .throw _
  | true =>
      have lookups := db.journals_collectTaken entity mode (uniqueValues entity) .empty
      refine lookups.bind fun taken => ?_
      cases taken.isEmpty with
      | false => exact .throw _
      | true => exact .pure _

theorem journals_saving : db.Journals (db.saving mode entity) := by
  have sends : db.Journals (db.sendRow mode entity) :=
    .query_bind fun statement => .run db _ _ statement false
  rw [saving]
  refine .query_bind fun _ => (db.journals_checkEntity entity mode).bind fun _ => ?_
  exact sends.bind fun _ => .result _

theorem journals_removing : db.Journals (db.removing entity) := by
  rw [removing]
  refine .query_bind fun _ => ?_
  cases entity.primaryKey? with
  | none => exact .throw _
  | some key => exact .run_bind db _ _ _ fun _ => .pure _

theorem journals_steps (operation : Operation) : db.Journals (operation.steps db entity) := by
  cases operation with
  | insert => exact db.journals_saving entity .insert
  | update => exact db.journals_saving entity .update
  | remove => exact db.journals_removing entity

end Writes

theorem journals_findEntities (db : Database σ) (entity : String) (filter : Filter)
    (options : EntityOptions) : db.Journals (db.findEntities entity filter options) :=
  .result_bind fun query =>
    (Journals.run db _ _ query.statement query.grouped).bind fun _ => .draw _

theorem journals_findEntity (db : Database σ) (entity : String) (filter : Filter)
    (options : EntityOptions) : db.Journals (db.findEntity entity filter options) :=
  .result_bind fun query =>
    (Journals.run db _ _ query.statement query.grouped).bind fun _ => .draw _

theorem journals_updateAll (db : Database σ) (entity : String) (values : List (String × Value))
    (filter : Filter) : db.Journals (db.updateAll entity values filter) := by
  rw [updateAll]
  refine .definition_bind fun schema => .query_bind fun (errors, columns) => ?_
  dsimp only
  cases errors.isEmpty with
  | false => exact .throw _
  | true => exact .query_bind fun fragment => .run_bind db _ _ _ fun _ => .pure _

/-- Every operation has a journal, whatever it is given. -/
theorem journals_command (db : Database σ) (command : Command) : db.Journals (command.run db) := by
  cases command with
  | find table filter options =>
      refine .map ?_ _
      exact .run_bind db _ _ _ fun _ => .pure _
  | findOne table filter options =>
      refine .map ?_ _
      exact .run_bind db _ _ _ fun _ => .pure _
  | count table filter options =>
      refine .map ?_ _
      exact .run_bind db _ _ _ fun _ => .result _
  | insertInto table values =>
      refine .map ?_ _
      exact .query_bind fun _ => .query_bind fun statement => .run db _ _ statement false
  | updateWhere table values filter =>
      refine .map ?_ _
      exact .query_bind fun _ => .run_bind db _ _ _ fun _ => .pure _
  | deleteWhere table filter =>
      refine .map ?_ _
      exact .query_bind fun _ => .run_bind db _ _ _ fun _ => .pure _
  | runStatement statement => exact .map (.run db _ _ statement false) _
  | findEntities entity filter options =>
      exact (db.journals_findEntities entity filter options).map _
  | findEntity entity filter options => exact (db.journals_findEntity entity filter options).map _
  | findEntityOrFail entity filter options =>
      refine .map ((db.journals_findEntity entity filter options).bind fun found => ?_) _
      cases found with
      | some entity => exact .pure entity
      | none => exact .definition_bind fun _ => .throw _
  | countEntities entity filter =>
      refine .map ?_ _
      exact .result_bind fun statement =>
        (Journals.run db _ _ statement false).bind fun _ => .result _
  | updateAll entity values filter => exact (db.journals_updateAll entity values filter).map _
  | removeAll entity filter =>
      refine .map ?_ _
      exact .definition_bind fun _ => .query_bind fun _ => .run_bind db _ _ _ fun _ => .pure _
  | write operation entity =>
      intro world
      obtain ⟨dispatches, journal, concludes⟩ := db.journals_steps entity operation world
      refine ⟨dispatches, ?_⟩
      simp only [Command.run, Operation.run_eq]
      generalize operation.steps db entity world = outcome at journal concludes ⊢
      obtain ⟨error | changed, after⟩ := outcome
      · exact ⟨journal, concludes.of_error⟩
      · exact ⟨journal, .executed concludes.executed_of_ok⟩

end Database

/-- The world after the counts were reset. -/
def World.reset {σ : Type} (world : World σ) : World σ :=
  { world with monitor := { world.monitor with statistics := .zero } }

namespace Command

variable {σ : Type}

/-- The world after operations that are run in turn, whatever comes of each. -/
def runAll (db : Database σ) (commands : List Command) (world : World σ) : World σ :=
  commands.foldl (fun world command => (command.run db world).2) world

/-- Operations that are run in turn, each with its journal. -/
inductive Recorded (db : Database σ) :
    World σ → List Command → List (List Dispatch) → World σ → Prop where
  | nil (world : World σ) : Recorded db world [] [] world
  | cons {before after : World σ} {command : Command} {commands : List Command}
      {dispatches : List Dispatch} {journals : List (List Dispatch)}
      (journal : db.Journal before dispatches (command.run db before).2)
      (concludes : Database.Concludes dispatches (command.run db before).1)
      (others : Recorded db (command.run db before).2 commands journals after) :
      Recorded db before (command :: commands) (dispatches :: journals) after

theorem recorded_runAll (db : Database σ) (commands : List Command) (world : World σ) :
    ∃ journals, Recorded db world commands journals (runAll db commands world) := by
  induction commands generalizing world with
  | nil => exact ⟨[], .nil world⟩
  | cons command rest ih =>
      obtain ⟨dispatches, journal, concludes⟩ := db.journals_command command world
      obtain ⟨journals, others⟩ := ih (command.run db world).2
      exact ⟨dispatches :: journals, .cons journal concludes others⟩

theorem Recorded.journal {db : Database σ} {before after : World σ} {commands : List Command}
    {journals : List (List Dispatch)} (recorded : Recorded db before commands journals after) :
    db.Journal before journals.flatten after := by
  induction recorded with
  | nil world => exact .nil world
  | cons journal _ _ ih => exact journal.trans ih

/-- Hooks and counts account for every statement of any operations, with the log switched on or off,
whatever the hooks refuse and the database answers. Each operation has a journal: the statements
that it set out to run, each of which passes the hooks or is refused, and a refusal is the error of
the operation. What was executed is what the database was handed, and, if the hook that counts
occurs once in the tree of hooks, what was counted since the counts were reset, modulo 2^64. -/
theorem statements_accounted {db : Database σ} {hook : Hook} (installed : db.hook = some hook)
    (once : hook.leaves.countP Hook.counts = 1) (commands : List Command) (world : World σ) :
    ∃ journals, Recorded db world.reset commands journals (runAll db commands world.reset) ∧
      let executed := journals.flatten.filter Dispatch.isExecuted
      (runAll db commands world.reset).monitor.calls =
          world.monitor.calls ++ executed.map Dispatch.call ∧
        (runAll db commands world.reset).monitor.statistics.Tally executed := by
  have counted : db.leaves.countP Hook.counts = 1 := by
    rw [Database.leaves, Database.hooks, installed, ← once]
    cases db.config.logsStatements with
    | false => simp [Hook.leavesAll]
    | true => simp [Hook.leavesAll, Hook.leaves, Hook.counts]
  obtain ⟨journals, recorded⟩ := recorded_runAll db commands world.reset
  exact ⟨journals, recorded, recorded.journal.calls,
    recorded.journal.tally counted Statistics.tally_zero⟩

/-- A tree of hooks that record, count and refuse removals. -/
private def watch : Hook :=
  .composite [.recorder, .composite [.statistics, .gate fun _ context =>
    if context.kind = .delete then some "kept" else none]]

/-- A session that logs its statements, besides the other hooks. -/
private def watched : Database (List (Result Response)) :=
  { Database.scripted with
    config := { Config.standard with logsStatements := true }
    hook := some watch }

private def changes : List Command :=
  [.write .insert Account.fresh, .deleteWhere "accounts" [.column (.bare "id") (.eq (.int 7))],
    .updateWhere "accounts" [("email", .text "c@d.e")] []]

private def answered : World (List (Result Response)) :=
  .prepared (Account.answers ++ [.error (.execution (.reported "gone") none)])

/-- An account is inserted, a removal is refused, and an update fails. The three statements that
were executed are counted, one of them as failed. -/
theorem statements_accounted_watched :
    watched.hook = some watch ∧ watch.leaves.countP Hook.counts = 1 ∧
      (∃ journals,
        Recorded watched answered.reset changes journals (runAll watched changes answered.reset) ∧
        (runAll watched changes answered.reset).monitor.statistics.Tally
          (journals.flatten.filter Dispatch.isExecuted)) ∧
      (runAll watched changes answered.reset).monitor.statistics = ⟨3, 1, 1, 1, 1, 0, 0, 0⟩ ∧
      (runAll watched changes answered.reset).monitor.calls.map Prod.fst =
        ["SELECT * FROM \x60accounts\x60 WHERE \x60email\x60 = ? LIMIT ? OFFSET ?;",
          "INSERT INTO \x60accounts\x60 (\x60email\x60) VALUES (?);",
          "UPDATE \x60accounts\x60 SET \x60email\x60 = ?;"] := by
  have installed : watched.hook = some watch := rfl
  have once : watch.leaves.countP Hook.counts = 1 := rfl
  obtain ⟨journals, recorded, -, tally⟩ := statements_accounted installed once changes answered
  exact ⟨installed, once, ⟨journals, recorded, tally⟩, by decide +kernel, by decide +kernel⟩

end Command

end EntityMapper
