import EntityMapper.Proofs.Monitor.Telling
import EntityMapper.Session.Basic

set_option autoImplicit false

/-! What is handed to the database: hooks hand over nothing, and running a statement hands over
that statement once, unless a hook refuses it. -/

namespace EntityMapper

/-- What the database is handed: the text and parameters of a statement, and whether the rows are to
be split by tables. -/
abbrev Call := String × List Value × Bool

/-- A statement as it is handed to the database. -/
def Statement.call (statement : Statement) (grouped : Bool) : Call :=
  (statement.text, statement.params, grouped)

namespace Monitor

/-- All that the database has been handed. -/
def calls (monitor : Monitor) : List Call := monitor.trace.calls

@[simp] theorem calls_record_event (event : HookEvent) (monitor : Monitor) :
    (monitor.record (.event event)).calls = monitor.calls := by
  simp [calls, record, Trace.calls]

@[simp] theorem calls_record_log (entry : LogEntry) (monitor : Monitor) :
    (monitor.record (.log entry)).calls = monitor.calls := by
  simp [calls, record, Trace.calls]

@[simp] theorem calls_record_call (statement : Statement) (grouped : Bool) (monitor : Monitor) :
    (monitor.record (.call statement.text statement.params grouped)).calls =
      monitor.calls ++ [statement.call grouped] := by
  simp [calls, record, Trace.calls, Statement.call]

end Monitor

namespace Hook

theorem aloof_calls : Aloof Monitor.calls :=
  ⟨Monitor.calls_record_event, Monitor.calls_record_log⟩

mutual

theorem calls_after (context : Context) (duration : Nat) (outcome : Outcome) :
    (hook : Hook) → (monitor : Monitor) →
      (after context duration outcome hook monitor).calls = monitor.calls
  | .statistics, _ => rfl
  | .recorder, monitor => Monitor.calls_record_event _ monitor
  | .silent, _ => rfl
  | .gate _, _ => rfl
  | .logger _ _, monitor => Monitor.calls_record_log _ monitor
  | .composite hooks, monitor => by
      rw [after, calls_afterAll context duration outcome hooks monitor]

theorem calls_afterAll (context : Context) (duration : Nat) (outcome : Outcome) :
    (hooks : List Hook) → (monitor : Monitor) →
      (afterAll context duration outcome hooks monitor).calls = monitor.calls
  | [], _ => rfl
  | hook :: rest, monitor => by
      rw [afterAll, calls_afterAll context duration outcome rest,
        calls_after context duration outcome hook monitor]

end

end Hook

namespace World

variable {σ : Type}

/-- Between two worlds the database was handed nothing. -/
structure Undisturbed (before after : World σ) : Prop where
  calls : after.monitor.calls = before.monitor.calls
  database : after.database = before.database

theorem Undisturbed.rfl {world : World σ} : Undisturbed world world := ⟨Eq.refl _, Eq.refl _⟩

/-- Between two worlds the database was handed nothing or one call, of a certain kind. -/
def Hands (kind : Call → Prop) (before after : World σ) : Prop :=
  Undisturbed before after ∨
    ∃ call, kind call ∧ after.monitor.calls = before.monitor.calls ++ [call]

theorem Hands.imp {kind other : Call → Prop} {before after : World σ}
    (hands : Hands kind before after) (weaker : ∀ call, kind call → other call) :
    Hands other before after := by
  rcases hands with quiet | ⟨call, isOf, sent⟩
  · exact Or.inl quiet
  · exact Or.inr ⟨call, weaker call isOf, sent⟩

/-- A computation hands a statement to the database, or fails because a hook refuses it, and hands
over nothing. -/
def SendsOrAborts {α : Type} (before : World σ) (statement : Statement) (grouped : Bool)
    (result : Result α × World σ) : Prop :=
  (∃ reason, result.1 = .error (.execution (.aborted reason) (some statement.text)) ∧
    Undisturbed before result.2) ∨
    result.2.monitor.calls = before.monitor.calls ++ [statement.call grouped]

theorem SendsOrAborts.hands {α : Type} {kind : Call → Prop} {before : World σ}
    {statement : Statement} {grouped : Bool} {result : Result α × World σ}
    (sends : before.SendsOrAborts statement grouped result)
    (isOf : kind (statement.call grouped)) : Hands kind before result.2 := by
  rcases sends with ⟨_, -, quiet⟩ | sent
  · exact Or.inl quiet
  · exact Or.inr ⟨_, isOf, sent⟩

end World

/-- The call hands over the statement of a fragment. -/
def Fragment.HandedAs (fragment : Fragment) (call : Call) : Prop :=
  ∃ statement : Statement, fragment.statement = .ok statement ∧ call = statement.call false

namespace Session

variable {σ α β : Type}

theorem bind_apply (first : Session σ α) (next : α → Session σ β) (world : World σ) :
    (first >>= next) world =
      match first world with
      | (.ok value, after) => next value after
      | (.error error, after) => (.error error, after) := by
  have opened : (first >>= next) world =
      (ExceptT.bindCont next (first world).1 : StateM (World σ) _) (first world).2 := rfl
  rw [opened]
  obtain ⟨_ | _, _⟩ := first world <;> rfl

theorem bind_of_ok {first : Session σ α} {next : α → Session σ β} {world after : World σ}
    {value : α} (ran : first world = (.ok value, after)) :
    (first >>= next) world = next value after := by
  rw [bind_apply, ran]

theorem bind_of_error {first : Session σ α} {next : α → Session σ β} {world after : World σ}
    {error : Error} (ran : first world = (.error error, after)) :
    (first >>= next) world = (.error error, after) := by
  rw [bind_apply, ran]

theorem tryCatch_apply (first : Session σ α) (handler : Error → Session σ α) (world : World σ) :
    tryCatch first handler world =
      match first world with
      | (.ok value, after) => (.ok value, after)
      | (.error error, after) => handler error after := by
  change (ExceptT.tryCatch first handler : Session σ α) world = _
  simp only [ExceptT.tryCatch, ExceptT.mk, bind, StateT.bind]
  generalize first world = ran
  obtain ⟨_ | _, _⟩ := ran <;> rfl

theorem result_bind (result : Result α) (next : α → Session σ β) (world : World σ) :
    ((liftM result : Session σ α) >>= next) world =
      match result with
      | .ok value => next value world
      | .error error => (.error error, world) := by
  cases result <;> rfl

theorem query_bind (result : Except QueryFault α) (next : α → Session σ β) (world : World σ) :
    ((liftM result : Session σ α) >>= next) world =
      match result with
      | .ok value => next value world
      | .error fault => (.error (.query fault), world) := by
  cases result <;> rfl

theorem definition_bind (result : Except DefinitionFault α) (next : α → Session σ β)
    (world : World σ) :
    ((liftM result : Session σ α) >>= next) world =
      match result with
      | .ok value => next value world
      | .error fault => (.error (.definition fault), world) := by
  cases result <;> rfl

/-- What is made of the value of a computation does not count for what it hands over. -/
theorem sendsOrAborts_bind_pure {session : Session σ α} {world : World σ} {statement : Statement}
    {grouped : Bool} (sends : world.SendsOrAborts statement grouped (session world))
    (change : α → β) :
    world.SendsOrAborts statement grouped
      ((session >>= fun value => pure (change value)) world) := by
  rw [bind_apply]
  generalize session world = result at sends ⊢
  obtain ⟨_ | _, after⟩ := result
  · refine sends.imp_left ?_
    rintro ⟨reason, same, quiet⟩
    exact ⟨reason, congrArg Except.error (Except.error.inj same), quiet⟩
  · refine sends.imp_left ?_
    rintro ⟨reason, same, -⟩
    cases same

end Session

namespace Database

variable {σ : Type}

/-- What no hook refuses the database is handed once, and its answer is the result. -/
theorem run_admitted (db : Database σ) (tag : String) (entity : Option String)
    (statement : Statement) (grouped : Bool) (world : World σ)
    (admitted : (Hook.beforeAll
      (Context.ofStatement statement.text statement.params.length (some tag) entity) db.hooks
      world.monitor).1 = none) :
    ∃ after, db.run tag entity statement grouped world =
        ((db.executor statement grouped world.database).1.mapError
          (Error.withStatement statement.text), after) ∧
      after.monitor.calls = world.monitor.calls ++ [statement.call grouped] ∧
      after.database = (db.executor statement grouped world.database).2 := by
  let context :=
    Context.ofStatement statement.text statement.params.length (some tag) entity
  have before := Hook.beforeAll_keeps context Hook.aloof_calls db.hooks world.monitor
  unfold Database.run
  rw [Session.bind_apply, announce]
  generalize Hook.beforeAll context db.hooks world.monitor = reading at before admitted ⊢
  obtain ⟨refusal, told⟩ := reading
  obtain rfl : refusal = none := admitted
  refine ⟨_, rfl, (Hook.calls_afterAll context 0 _ db.hooks _).trans ?_, rfl⟩
  rw [Monitor.calls_record_call, before]

/-- All that running a statement can do: a hook refuses the statement, or the database is handed it
once and its answer is the result. -/
theorem run_cases (db : Database σ) (tag : String) (entity : Option String) (statement : Statement)
    (grouped : Bool) (world : World σ) :
    (∃ reason after, db.run tag entity statement grouped world =
        (.error (.execution (.aborted reason) (some statement.text)), after) ∧
      world.Undisturbed after) ∨
    (∃ after, db.run tag entity statement grouped world =
        ((db.executor statement grouped world.database).1.mapError
          (Error.withStatement statement.text), after) ∧
      after.monitor.calls = world.monitor.calls ++ [statement.call grouped] ∧
      after.database = (db.executor statement grouped world.database).2) := by
  let context :=
    Context.ofStatement statement.text statement.params.length (some tag) entity
  have before := Hook.beforeAll_keeps context Hook.aloof_calls db.hooks world.monitor
  cases reading : Hook.beforeAll context db.hooks world.monitor with
  | mk refusal told =>
      cases refusal with
      | some reason =>
          rw [reading] at before
          unfold Database.run
          rw [Session.bind_apply, announce, reading]
          exact Or.inl ⟨reason, _, rfl, before, rfl⟩
      | none =>
          exact Or.inr (db.run_admitted tag entity statement grouped world
            (congrArg Prod.fst reading))

/-- A statement that is run is handed over, unless a hook refuses it. -/
theorem run_sends (db : Database σ) (tag : String) (entity : Option String) (statement : Statement)
    (grouped : Bool) (world : World σ) :
    world.SendsOrAborts statement grouped (db.run tag entity statement grouped world) := by
  rcases db.run_cases tag entity statement grouped world with
    ⟨reason, after, ran, quiet⟩ | ⟨after, ran, sent, -⟩
  · rw [ran]
    exact Or.inl ⟨reason, rfl, quiet⟩
  · rw [ran]
    exact Or.inr sent

theorem change_sends (db : Database σ) (tag : String) (entity : Option String)
    {fragment : Fragment} {statement : Statement} (written : fragment.statement = .ok statement)
    (world : World σ) :
    world.SendsOrAborts statement false
      ((do
        let statement ← fragment.statement
        return (← db.run tag entity statement false).affected : Session σ UInt64) world) := by
  rw [Session.query_bind, written]
  exact Session.sendsOrAborts_bind_pure (db.run_sends tag entity statement false world) _

/-- Running the statement of a fragment hands over that statement, or nothing. -/
theorem change_hands (db : Database σ) (tag : String) (entity : Option String)
    (fragment : Fragment) (world : World σ) :
    world.Hands fragment.HandedAs
      ((do
        let statement ← fragment.statement
        return (← db.run tag entity statement false).affected : Session σ UInt64) world).2 := by
  cases written : fragment.statement with
  | error fault =>
      rw [Session.query_bind]
      exact Or.inl .rfl
  | ok statement =>
      rw [← written]
      exact (db.change_sends tag entity written world).hands ⟨statement, written, rfl⟩

/-- A database that has nothing and takes everything. -/
def mute (registry : Registry) : Database Unit :=
  ⟨fun _ _ state => (.ok .empty, state), registry, .standard, none⟩

end Database

namespace World

/-- Nothing has happened yet. -/
def fresh : World Unit := ⟨(), .empty, default⟩

end World

end EntityMapper
