import EntityMapper.Proofs.Outcome
import EntityMapper.Proofs.Session.Failure

set_option autoImplicit false

/-! The life of an instance, over any calls on it. Its state only moves forward, a call that fails
leaves it as it was, and once it is removed no write asks a hook or the database any more. -/

namespace EntityMapper

/-- Nothing comes behind the removal. -/
theorem Lifecycle.eq_deleted_of_stage_le {state : Lifecycle}
    (behind : Lifecycle.deleted.stage ≤ state.stage) : state = .deleted := by
  cases state with
  | new => exact absurd behind (by decide)
  | persisted => exact absurd behind (by decide)
  | deleted => rfl

namespace Entity

@[simp] theorem state_withState (state : Lifecycle) (entity : Entity) :
    (entity.withState state).state = state := by
  cases entity
  rfl

theorem state_of_set {entity changed : Entity} {field : String} {value : Value}
    (success : entity.set field value = .ok changed) : changed.state = entity.state := by
  obtain ⟨schema, fields, stored, relations, state⟩ := entity
  rw [set] at success
  cases found : schema.column? field with
  | none =>
      rw [found] at success
      cases success
  | some column =>
      rw [found] at success
      rw [← Except.ok.inj success]
      rfl

/-- A row that was written leaves a persisted instance. -/
theorem state_of_written {entity changed : Entity} {response : Response} {mode : WriteMode}
    (success : entity.written response mode = .ok changed) : changed.state = .persisted := by
  cases mode with
  | insert =>
      obtain ⟨keyed, -, rfl⟩ := Outcome.map_eq_ok success
      exact state_withState _ _
  | update =>
      rw [← Except.ok.inj success]
      exact state_withState _ _

end Entity

namespace Operation

variable {σ : Type}

/-- The state to which an operation leads. -/
def goal : Operation → Lifecycle
  | .insert => .persisted
  | .update => .persisted
  | .remove => .deleted

/-- Why an operation is refused for an instance that has been removed. -/
def refusal (entity : Entity) : Operation → QueryFault
  | .insert => .notInsertable .deleted entity.typeName
  | .update => .removed entity.typeName
  | .remove => .removed entity.typeName

/-- Only an instance that has not been removed reaches the goal of an operation. -/
theorem steps_succeed (db : Database σ) (operation : Operation) (entity : Entity) :
    db.Meets (operation.steps db entity) fun _ result => ∀ changed, result = .ok changed →
      entity.state ≠ .deleted ∧ changed.state = operation.goal := by
  have saved (mode : WriteMode) : db.Meets (db.saving mode entity) fun _ result =>
      ∀ changed, result = .ok changed →
        entity.state ≠ .deleted ∧ changed.state = .persisted := by
    refine (db.saving_course mode entity).imp fun exchanges result course changed success => ?_
    rcases course with ⟨-, fault, -, failed⟩ | ⟨ready, course⟩
    · cases failed.symm.trans success
    · refine ⟨fun removed => ?_, ?_⟩
      · cases mode with
        | insert => simp [Entity.checkState, removed] at ready
        | update => simp [Entity.checkState, Database.checkLive, removed] at ready
      · cases course with
        | rejected checks => cases success
        | unwritten checks fails => cases success
        | written checks written response => exact Entity.state_of_written success
  cases operation with
  | insert => exact saved .insert
  | update => exact saved .update
  | remove =>
      change db.Meets (db.removing entity) _
      rw [Database.removing]
      refine Database.Meets.query_bind (fun _ _ _ success => by cases success)
        fun live passed => ?_
      have present : entity.state ≠ .deleted := by
        intro removed
        simp [Database.checkLive, removed] at passed
      cases entity.primaryKey? with
      | none => exact .throw fun changed success => by cases success
      | some key =>
          refine Database.Meets.run_bind (fun _ _ _ _ success => by cases success)
            fun statement response written => .pure fun changed success => ?_
          rw [← Except.ok.inj success]
          exact ⟨present, Entity.state_withState _ _⟩

/-- For an instance that has been removed every operation is refused at once, whatever the hooks and
the database are: neither is asked. -/
theorem run_removed (db : Database σ) (operation : Operation) {entity : Entity} (world : World σ)
    (removed : entity.state = .deleted) :
    operation.run db (entity, world) =
      (.error (.query (operation.refusal entity)), entity, world) := by
  have refused (mode : WriteMode) {fault : QueryFault}
      (failed : entity.checkState mode = .error fault) :
      db.saving mode entity world = (.error (.query fault), world) := by
    rw [Database.saving, Session.query_bind, failed]
  have dead : Database.checkLive entity = .error (.removed entity.typeName) :=
    if_pos removed
  rw [run_eq]
  cases operation with
  | insert =>
      have inserted : entity.checkState .insert =
          .error (.notInsertable .deleted entity.typeName) := by
        rw [Entity.checkState, removed]
        rfl
      rw [steps, refused .insert inserted]
      rfl
  | update =>
      rw [steps, refused .update dead]
      rfl
  | remove =>
      rw [steps, Database.removing, Session.query_bind, dead]
      rfl

end Operation

/-- A call on an instance: a field is set, or its row is inserted, updated or removed, each through
a database and hooks of its own. -/
inductive InstanceCall (σ : Type) where
  | set (field : String) (value : Value)
  | perform (db : Database σ) (operation : Operation)

namespace InstanceCall

variable {σ : Type}

def run : InstanceCall σ → Writing σ Unit
  | .set field value => fun state =>
      Writing.keep state.1 ((state.1.set field value).mapError .query, state.2)
  | .perform db operation => operation.run db

/-- The instance and the world after calls that are made in turn, whatever comes of each. -/
def runAll (calls : List (InstanceCall σ)) (state : Entity × World σ) : Entity × World σ :=
  calls.foldl (fun state call => (call.run state).2) state

theorem runAll_cons (call : InstanceCall σ) (rest : List (InstanceCall σ))
    (state : Entity × World σ) :
    runAll (call :: rest) state = runAll rest (call.run state).2 := rfl

/-- All that a call can come to: it fails and keeps the instance, or it succeeds, and the state is
kept or one that an instance in the state before may reach. -/
theorem run_cases (call : InstanceCall σ) (state : Entity × World σ) :
    ((∃ error, (call.run state).1 = .error error) ∧ (call.run state).2.1 = state.1) ∨
      ((call.run state).1 = .ok () ∧
        ((∃ field value, call = .set field value ∧
            (call.run state).2.1.state = state.1.state) ∨
          ∃ db operation, call = .perform db operation ∧ state.1.state ≠ .deleted ∧
            (call.run state).2.1.state = operation.goal)) := by
  obtain ⟨entity, world⟩ := state
  cases call with
  | set field value =>
      have told : run (.set field value) (entity, world) =
          Writing.keep entity ((entity.set field value).mapError .query, world) := rfl
      rw [told]
      cases changing : entity.set field value with
      | error fault => exact Or.inl ⟨⟨_, rfl⟩, rfl⟩
      | ok changed =>
          exact Or.inr ⟨rfl, Or.inl ⟨field, value, rfl, Entity.state_of_set changing⟩⟩
  | perform db operation =>
      obtain ⟨-, -, reached⟩ := operation.steps_succeed db entity world
      rw [run, Operation.run_eq]
      generalize operation.steps db entity world = outcome at reached ⊢
      obtain ⟨error | changed, after⟩ := outcome
      · exact Or.inl ⟨⟨error, rfl⟩, rfl⟩
      · exact Or.inr ⟨rfl, Or.inr ⟨db, operation, rfl, reached changed rfl⟩⟩

theorem stage_run (call : InstanceCall σ) (state : Entity × World σ) :
    state.1.state.stage ≤ (call.run state).2.1.state.stage := by
  rcases call.run_cases state with ⟨-, kept⟩ | ⟨-, ⟨-, -, -, kept⟩ | ⟨-, operation, -, live, led⟩⟩
  · exact Nat.le_of_eq (congrArg (fun entity => entity.state.stage) kept.symm)
  · exact Nat.le_of_eq (congrArg Lifecycle.stage kept.symm)
  · -- What was removed is refused, so that the goal of no operation lies behind the state.
    rw [led]
    cases before : state.1.state with
    | new => exact Nat.zero_le _
    | persisted => cases operation <;> decide
    | deleted => exact absurd before live

/-- Over any calls the state only moves forward. -/
theorem stage_runAll (calls : List (InstanceCall σ)) (state : Entity × World σ) :
    state.1.state.stage ≤ (runAll calls state).1.state.stage := by
  induction calls generalizing state with
  | nil => exact Nat.le_refl _
  | cons call rest ih =>
      rw [runAll_cons]
      exact Nat.le_trans (call.stage_run state) (ih _)

/-- At every point of a run, whatever the hooks and databases do: the state moves forward only, with
the next call and with all that follow; a write that succeeds reaches its goal; a call that fails
keeps the instance as it was; and an instance that has been removed stays so, while each further
write of it fails and changes nothing in the world, so that no hook is told and nothing is sent. -/
theorem life_moves_forward (start : Entity × World σ) (earlier : List (InstanceCall σ))
    (call : InstanceCall σ) (later : List (InstanceCall σ)) :
    let before := runAll earlier start
    let outcome := call.run before
    let last := runAll later outcome.2
    (start.1.state.stage ≤ before.1.state.stage ∧
      before.1.state.stage ≤ outcome.2.1.state.stage ∧
      outcome.2.1.state.stage ≤ last.1.state.stage) ∧
    (∀ db operation, call = .perform db operation → outcome.1 = .ok () →
      outcome.2.1.state = operation.goal) ∧
    (∀ error, outcome.1 = .error error → outcome.2.1 = before.1) ∧
    (before.1.state = .deleted → last.1.state = .deleted ∧
      ∀ db operation, call = .perform db operation →
        outcome = (.error (.query (operation.refusal before.1)), before)) := by
  intro before outcome last
  have next := call.stage_run before
  have rest := stage_runAll later outcome.2
  refine ⟨⟨stage_runAll earlier start, next, rest⟩, ?_, ?_, fun removed => ⟨?_, ?_⟩⟩
  · intro db operation made success
    rcases call.run_cases before with
      ⟨⟨error, failed⟩, -⟩ | ⟨-, ⟨field, value, other, -⟩ | ⟨other, same, made', -, led⟩⟩
    · cases failed.symm.trans success
    · cases made.symm.trans other
    · cases made.symm.trans made'
      exact led
  · intro error failed
    rcases call.run_cases before with ⟨-, kept⟩ | ⟨success, -⟩
    · exact kept
    · cases failed.symm.trans success
  · rw [removed] at next
    exact Lifecycle.eq_deleted_of_stage_le (Nat.le_trans next rest)
  · rintro db operation rfl
    exact operation.run_removed db before.2 removed

/-- An account is inserted, changed and removed. Another session, whose hook records all it is told,
refuses to insert it again, and its hook was told nothing. -/
theorem life_moves_forward_account :
    let calls : List (InstanceCall (List (Result Response))) :=
      [.perform .scripted .insert, .set "email" (.text "c@d.e"), .perform .scripted .remove]
    let before := runAll calls (Account.fresh, .prepared Account.answers)
    let watched : Database (List (Result Response)) :=
      { Database.scripted with hook := some .recorder }
    before.1.state = .deleted ∧
      before.2.monitor.calls.map Prod.fst =
        ["SELECT * FROM \x60accounts\x60 WHERE \x60email\x60 = ? LIMIT ? OFFSET ?;",
          "INSERT INTO \x60accounts\x60 (\x60email\x60) VALUES (?);",
          "DELETE FROM \x60accounts\x60 WHERE \x60id\x60 = ?;"] ∧
      (perform watched .insert).run before =
        (.error (.query (.notInsertable .deleted "Account")), before) := by
  intro calls before watched
  have removed : before.1.state = .deleted := rfl
  obtain ⟨-, -, -, refused⟩ := life_moves_forward (Account.fresh, .prepared Account.answers) calls
    (.perform watched .insert) []
  exact ⟨removed, rfl, (refused removed).2 watched .insert rfl⟩

end InstanceCall

end EntityMapper
