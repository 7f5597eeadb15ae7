import EntityMapper.Proofs.Session.Checking

set_option autoImplicit false

/-! Writes of instances, from their first check to the answer of the database. -/

namespace EntityMapper

namespace Writing

variable {σ α β : Type}

theorem bind_apply (first : Writing σ α) (next : α → Writing σ β) (state : Entity × World σ) :
    (first >>= next) state =
      match first state with
      | (.ok value, after) => next value after
      | (.error error, after) => (.error error, after) := by
  have opened : (first >>= next) state =
      (ExceptT.bindCont next (first state).1 : StateM (Entity × World σ) _) (first state).2 := rfl
  rw [opened]
  obtain ⟨_ | _, _⟩ := first state <;> rfl

/-- A fault of the first of two results is the fault of both. -/
theorem query_bind_assoc {γ : Type} (first : Except QueryFault α) (next : α → Except QueryFault β)
    (following : β → Session σ γ) :
    ((liftM (first >>= next) : Session σ β) >>= following) =
      ((liftM first : Session σ α) >>= fun value =>
        (liftM (next value) : Session σ β) >>= following) := by
  cases first <;> rfl

/-- What a session makes of an instance takes its place. Where it fails, the instance is kept. -/
def keep (entity : Entity) : Result Entity × World σ → Result Unit × (Entity × World σ)
  | (.ok changed, after) => (.ok (), changed, after)
  | (.error error, after) => (.error error, entity, after)

/-- A step that leaves the instance alone. -/
theorem keep_bind {session : Session σ α} {next : α → Writing σ Unit}
    {following : α → Session σ Entity} {entity : Entity}
    (same : ∀ value world, next value (entity, world) = keep entity (following value world))
    (world : World σ) :
    (ofSession session >>= next) (entity, world) =
      keep entity ((session >>= following) world) := by
  rw [bind_apply, Session.bind_apply, ofSession]
  cases session world with
  | mk result after =>
      cases result with
      | error error => rfl
      | ok value => exact same value after

end Writing

namespace Entity

/-- The state that an instance has to have for a write. -/
def checkState (entity : Entity) : WriteMode → Except QueryFault Unit
  | .insert =>
      if entity.state ≠ .new then .error (.notInsertable entity.state entity.typeName) else .ok ()
  | .update => Database.checkLive entity

/-- Rows are inserted for new instances, and updated for all that have not been removed. -/
def Writable (entity : Entity) : WriteMode → Prop
  | .insert => entity.state = .new
  | .update => entity.state ≠ .deleted

theorem checkState_of_writable {entity : Entity} {mode : WriteMode}
    (writable : entity.Writable mode) : entity.checkState mode = .ok () := by
  cases mode with
  | insert => exact if_neg (not_not_intro writable)
  | update => exact if_neg writable

/-- The statement that writes the row of an instance. -/
def rowStatement (entity : Entity) : WriteMode → Except QueryFault Statement
  | .insert => do
      let fragment ← Query.insert entity.schema.table (Database.insertedValues entity)
      fragment.statement
  | .update => do
      let fragment ← Query.update entity.schema.table (Database.updatedValues entity)
        (Database.keyFilter entity.schema (entity.primaryKey?.getD .null))
      fragment.statement

/-- The instance after its row was written. -/
def written (entity : Entity) (response : Response) : WriteMode → Result Entity
  | .insert => (Database.withGeneratedKey entity response.insertId).map (withState .persisted)
  | .update => .ok (entity.withState .persisted)

end Entity

namespace Database

variable {σ : Type}

def write (db : Database σ) : WriteMode → Writing σ Unit
  | .insert => db.insert
  | .update => db.update

/-- The tag of a write. -/
def tag : WriteMode → String
  | .insert => "insert"
  | .update => "update"

/-- Writes and runs the statement for the row of an instance. -/
def sendRow (db : Database σ) (mode : WriteMode) (entity : Entity) : Session σ Response := do
  let statement ← entity.rowStatement mode
  db.run (tag mode) (some entity.schema.name) statement false

/-- The steps that both writes share. -/
def saving (db : Database σ) (mode : WriteMode) (entity : Entity) : Session σ Entity := do
  entity.checkState mode
  db.checkEntity entity mode
  let response ← db.sendRow mode entity
  entity.written response mode

theorem write_eq (db : Database σ) (mode : WriteMode) (entity : Entity) (world : World σ) :
    db.write mode (entity, world) = Writing.keep entity (db.saving mode entity world) := by
  cases mode with
  | insert =>
      have start : db.insert (entity, world) = (do
          Writing.ofSession (liftM (entity.checkState .insert))
          Writing.ofSession (db.checkEntity entity .insert)
          let response ← Writing.ofSession (db.sendRow .insert entity)
          let keyed ← Writing.ofSession (withGeneratedKey entity response.insertId)
          Writing.replace (keyed.withState .persisted) : Writing σ Unit) (entity, world) := by
        have row : db.sendRow .insert entity = (do
            let fragment ← Query.insert entity.schema.table (insertedValues entity)
            let statement ← fragment.statement
            db.run "insert" (some entity.schema.name) statement false) := by
          rw [sendRow, Entity.rowStatement]
          exact Writing.query_bind_assoc _ _ _
        rw [row, Entity.checkState]
        rw [insert, Writing.bind_apply, Writing.current]
        by_cases new : entity.state = .new
        · simp only [new, ne_eq, not_true_eq_false, if_false]
          rfl
        · simp only [new, ne_eq, not_false_eq_true, if_true]
          rfl
      rw [write, start]
      refine Writing.keep_bind (fun _ world => ?_) world
      refine Writing.keep_bind (fun _ world => ?_) world
      refine Writing.keep_bind (fun response world => ?_) world
      rw [Entity.written]
      cases withGeneratedKey entity response.insertId <;> rfl
  | update =>
      have steps : db.saving .update entity = ((do
          checkLive entity
          db.checkEntity entity .update
          let fragment ← Query.update entity.schema.table (updatedValues entity)
            (keyFilter entity.schema (entity.primaryKey?.getD .null))
          let statement ← fragment.statement
          let _ ← db.run "update" (some entity.schema.name) statement false : Session σ Unit) >>=
            fun _ => pure (entity.withState .persisted)) := by
        rw [saving, sendRow, Entity.rowStatement, Writing.query_bind_assoc]
        simp only [bind_assoc, pure_bind]
        rfl
      rw [steps]
      exact Writing.keep_bind (fun _ _ => rfl) world

end Database

/-- How a write of an instance goes: what is sent and answered, and what becomes of the instance. -/
inductive Entity.Course (entity : Entity) (mode : WriteMode) :
    List Exchange → Result Entity → Prop where
  /-- The checks fail, and no row is written. -/
  | rejected {exchanges : List Exchange} {error : Error}
      (checks : entity.Checks mode exchanges (.error error)) :
      Course entity mode exchanges (.error error)
  /-- The checks pass, and the statement for the row fails. -/
  | unwritten {lookups writes : List Exchange} {error : Error}
      (checks : entity.Checks mode lookups (.ok ()))
      (fails : Database.Fails (entity.rowStatement mode) writes error) :
      Course entity mode (lookups ++ writes) (.error error)
  /-- The checks pass, and the database answers the statement for the row, which is the last. -/
  | written {lookups : List Exchange} {statement : Statement}
      (checks : entity.Checks mode lookups (.ok ()))
      (success : entity.rowStatement mode = .ok statement) (response : Response) :
      Course entity mode (lookups ++ [⟨statement, .ok response⟩]) (entity.written response mode)

namespace Database

variable {σ : Type}

theorem saving_course (db : Database σ) (mode : WriteMode) (entity : Entity) :
    db.Meets (db.saving mode entity) fun exchanges result =>
      (exchanges = [] ∧ ∃ fault, entity.checkState mode = .error fault ∧
        result = .error (.query fault)) ∨
      (entity.checkState mode = .ok () ∧ entity.Course mode exchanges result) := by
  rw [saving]
  apply Meets.query_bind
  · exact fun fault failed => Or.inl ⟨rfl, fault, failed, rfl⟩
  · rintro ⟨⟩ ready
    apply (db.checkEntity_checks entity mode).bind
    · exact fun exchanges error checks => Or.inr ⟨ready, .rejected checks⟩
    · rintro lookups ⟨⟩ checks
      rw [sendRow, bind_assoc]
      apply Meets.run_bind
      · exact fun writes error fails => Or.inr ⟨ready, .unwritten checks fails⟩
      · intro statement response success world
        exact ⟨[], .nothing db world, Or.inr ⟨ready, .written checks success response⟩⟩

/-- Every write of an instance goes its course, whatever the database answers and the hooks refuse:
an invalid instance is refused before anything is sent, and the row is written last and once, after
a lookup for each unique column with a value, all of them answered without rows. -/
theorem write_course (db : Database σ) {mode : WriteMode} {entity : Entity}
    (writable : entity.Writable mode) (world : World σ) :
    ∃ exchanges outcome after, entity.Course mode exchanges outcome ∧
      db.Exchanged world exchanges after ∧
      db.write mode (entity, world) = Writing.keep entity (outcome, after) := by
  obtain ⟨exchanges, exchanged, course⟩ := db.saving_course mode entity world
  rcases course with ⟨-, fault, failed, -⟩ | ⟨-, course⟩
  · cases failed.symm.trans (Entity.checkState_of_writable writable)
  · exact ⟨exchanges, _, _, course, exchanged, db.write_eq mode entity world⟩

/-- A database that gives one prepared answer after the other, and then empty ones. -/
def scripted : Database (List (Result Response)) :=
  ⟨fun _ _ answers => match answers with
    | [] => (.ok .empty, [])
    | answer :: rest => (answer, rest), ⟨Keyed.empty⟩, .standard, none⟩

end Database

/-- Nothing has happened yet, and answers are prepared. -/
def World.prepared (answers : List (Result Response)) : World (List (Result Response)) :=
  ⟨answers, .empty, default⟩

namespace Account

private def key : Column := ⟨"id", "id", .int, none, none, none, false, true, false, false, []⟩

private def email : Column := { Column.plain "email" .varchar with unique := true }

def schema : EntitySchema := ⟨"Account", "accounts", [key, email], [], key, List.mem_cons_self⟩

/-- An account that has no key yet. -/
def fresh : Entity :=
  .mk schema (Keyed.ofList [("id", .null), ("email", .text "a@b.c")]) none [] .new

/-- No row for a lookup, and a key for an insert. -/
def answers : List (Result Response) := [.ok .empty, .ok ⟨[], 1, some 7⟩]

end Account

namespace Database

/-- An account whose address is free is written after one lookup, and gets the key that the database
made. -/
theorem write_course_account :
    Account.fresh.Writable .insert ∧
      (∃ exchanges outcome after, Account.fresh.Course .insert exchanges outcome ∧
        scripted.Exchanged (.prepared Account.answers) exchanges after ∧
        scripted.write .insert (Account.fresh, .prepared Account.answers) =
          Writing.keep Account.fresh (outcome, after)) ∧
      (scripted.write .insert (Account.fresh, .prepared Account.answers)).1 = .ok () ∧
      (scripted.write .insert (Account.fresh, .prepared Account.answers)).2.2.monitor.calls =
        [("SELECT * FROM \x60accounts\x60 WHERE \x60email\x60 = ? LIMIT ? OFFSET ?;",
            [.text "a@b.c", .int 1, .int 0], false),
          ("INSERT INTO \x60accounts\x60 (\x60email\x60) VALUES (?);", [.text "a@b.c"],
            false)] := by
  have writable : Account.fresh.Writable .insert := rfl
  exact ⟨writable, scripted.write_course writable _, rfl, rfl⟩

end Database

end EntityMapper
