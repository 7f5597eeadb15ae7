import EntityMapper.Proofs.Session.Calls

set_option autoImplicit false

/-! Statements on their way through a session: each passes the hooks and is handed to the database,
or is refused by one of them; and what a computation did is told by the statements that it set out
to run. -/

namespace EntityMapper

namespace Hook

theorem calls_toldAfter (context : Context) (duration : Nat) (outcome : Outcome)
    (hooks : List Hook) (monitor : Monitor) :
    (toldAfter context duration outcome hooks monitor).calls = monitor.calls := by
  induction hooks generalizing monitor with
  | nil => rfl
  | cons hook rest ih => exact (ih _).trans (calls_after context duration outcome hook monitor)

end Hook

/-- What became of a statement: a hook refused it, or the database answered. -/
inductive Fate where
  | refused (reason : String)
  | executed (answer : Result Response)

/-- A statement that a session set out to run, and what became of it. -/
structure Dispatch where
  tag : String
  entity : Option String
  statement : Statement
  grouped : Bool
  fate : Fate

namespace Dispatch

/-- What hooks are told of the statement. -/
def context (dispatch : Dispatch) : Context :=
  .ofStatement dispatch.statement.text dispatch.statement.params.length (some dispatch.tag)
    dispatch.entity

def call (dispatch : Dispatch) : Call := dispatch.statement.call dispatch.grouped

def isExecuted (dispatch : Dispatch) : Bool :=
  match dispatch.fate with
  | .refused _ => false
  | .executed _ => true

/-- Whether the database answered with an error. -/
def isFailure (dispatch : Dispatch) : Bool :=
  match dispatch.fate with
  | .refused _ => false
  | .executed answer => !answer.isOk

/-- What hooks are told of an answer. -/
def outcome (dispatch : Dispatch) (answer : Result Response) : Outcome :=
  Database.outcome dispatch.context.kind
    (answer.mapError (Error.withStatement dispatch.statement.text))

/-- The result of a statement. -/
def result (dispatch : Dispatch) : Result Response :=
  match dispatch.fate with
  | .refused reason => .error (.execution (.aborted reason) (some dispatch.statement.text))
  | .executed answer => answer.mapError (Error.withStatement dispatch.statement.text)

theorem isFailure_outcome {dispatch : Dispatch} {answer : Result Response}
    (executed : dispatch.fate = .executed answer) :
    (dispatch.outcome answer).isFailure = dispatch.isFailure := by
  rw [isFailure, executed]
  cases answer with
  | error error => rfl
  | ok response =>
      change Outcome.isFailure (if dispatch.context.kind = .select then .rows response.rows.length
        else .affected response.affected) = false
      split <;> rfl

end Dispatch

namespace Database

variable {σ : Type}

/-- The hooks of a session that are not made of others: those at the leaves of its trees. -/
def leaves (db : Database σ) : List Hook := Hook.leavesAll db.hooks

/-- How a statement passes the hooks of a session, from one world to the next. The database is
handed it iff every hook lets it pass. Otherwise the first hook that does not ends it, and no hook
is told of an outcome. A statement that was handed over has every hook told once what came of it. -/
structure Passes (db : Database σ) (before : World σ) (dispatch : Dispatch) (after : World σ) :
    Prop where
  admitted : dispatch.isExecuted = true ↔
    Hook.Continue dispatch.context db.leaves before.monitor
  refused : ∀ reason, dispatch.fate = .refused reason →
    ∃ passed hook rest last, db.leaves = passed ++ hook :: rest ∧
      Hook.Continue dispatch.context passed before.monitor ∧
      hook.before dispatch.context (Hook.told dispatch.context passed before.monitor) =
        (some reason, last) ∧
      after = { before with monitor := last }
  executed : ∀ answer, dispatch.fate = .executed answer →
    (db.executor dispatch.statement dispatch.grouped before.database).1 = answer ∧
      after = { before with
        database := (db.executor dispatch.statement dispatch.grouped before.database).2
        monitor := Hook.toldAfter dispatch.context 0 (dispatch.outcome answer) db.leaves
          ((Hook.told dispatch.context db.leaves before.monitor).record
            (.call dispatch.statement.text dispatch.statement.params dispatch.grouped)) }

/-- Running a statement has it pass the hooks, and its fate is the result. -/
theorem run_passes (db : Database σ) (tag : String) (entity : Option String)
    (statement : Statement) (grouped : Bool) (world : World σ) :
    ∃ fate, db.Passes world ⟨tag, entity, statement, grouped, fate⟩
        (db.run tag entity statement grouped world).2 ∧
      (db.run tag entity statement grouped world).1 =
        (⟨tag, entity, statement, grouped, fate⟩ : Dispatch).result := by
  let context := Context.ofStatement statement.text statement.params.length (some tag) entity
  have flat : Hook.beforeAll context db.hooks world.monitor =
      Hook.beforeAll context db.leaves world.monitor :=
    Hook.beforeAll_eq_leaves context db.hooks world.monitor
  unfold Database.run
  rw [Session.bind_apply, announce, flat]
  rcases Hook.beforeAll_cases context db.leaves world.monitor with
    ⟨continued, told⟩ | ⟨passed, hook, rest, reason, last, split, continued, refuses, told⟩
  · let answer := (db.executor statement grouped world.database).1
    let dispatch : Dispatch := ⟨tag, entity, statement, grouped, .executed answer⟩
    rw [told]
    refine ⟨.executed answer, ⟨iff_of_true rfl continued, (fun _ refused => by cases refused), ?_⟩,
      rfl⟩
    rintro _ ⟨⟩
    have afterwards := Hook.afterAll_eq_leaves context 0 (dispatch.outcome answer) db.hooks
      ((Hook.told context db.leaves world.monitor).record
        (.call statement.text statement.params grouped))
    exact ⟨rfl, congrArg (fun monitor => World.mk
      (db.executor statement grouped world.database).2 monitor world.supply) afterwards⟩
  · rw [told]
    refine ⟨.refused reason, ⟨iff_of_false Bool.false_ne_true fun continues => ?_, ?_,
      (fun _ executed => by cases executed)⟩, rfl⟩
    · cases (congrArg Prod.fst refuses).symm.trans (continues passed hook rest split)
    · rintro _ ⟨⟩
      exact ⟨passed, hook, rest, last, split, continued, refuses, rfl⟩

section Counting

variable {db : Database σ} {before after : World σ} {dispatch : Dispatch}

/-- When a statement was refused, only notes and log entries have been added. -/
theorem Passes.refused_keeps {α : Type} {view : Monitor → α} (aloof : Hook.Aloof view)
    (passes : db.Passes before dispatch after) {reason : String}
    (fate : dispatch.fate = .refused reason) : view after.monitor = view before.monitor := by
  obtain ⟨passed, hook, rest, last, -, -, refuses, rfl⟩ := passes.refused reason fate
  let reached := Hook.told dispatch.context passed before.monitor
  calc view last = view (hook.before dispatch.context reached).2 :=
        (congrArg (fun told => view told.2) refuses).symm
    _ = view reached := Hook.before_keeps _ aloof hook reached
    _ = view before.monitor := Hook.told_keeps _ aloof passed before.monitor

/-- The database is handed what is executed, and nothing else. -/
theorem Passes.calls (passes : db.Passes before dispatch after) :
    after.monitor.calls =
      before.monitor.calls ++ if dispatch.isExecuted then [dispatch.call] else [] := by
  cases fate : dispatch.fate with
  | refused reason =>
      rw [passes.refused_keeps Hook.aloof_calls fate, Dispatch.isExecuted, fate]
      exact (List.append_nil _).symm
  | executed answer =>
      obtain ⟨-, rfl⟩ := passes.executed answer fate
      rw [Hook.calls_toldAfter, Monitor.calls_record_call, Hook.told_keeps _ Hook.aloof_calls,
        Dispatch.isExecuted, fate]
      rfl

/-- What is executed is counted, and nothing else, if the hook that counts occurs once. -/
theorem Passes.statistics (passes : db.Passes before dispatch after)
    (once : db.leaves.countP Hook.counts = 1) :
    after.monitor.statistics =
      if dispatch.isExecuted then
        before.monitor.statistics.add dispatch.context.kind dispatch.isFailure 0
      else before.monitor.statistics := by
  cases fate : dispatch.fate with
  | refused reason =>
      rw [passes.refused_keeps Hook.aloof_statistics fate, Dispatch.isExecuted, fate]
      rfl
  | executed answer =>
      obtain ⟨-, rfl⟩ := passes.executed answer fate
      rw [leaves, Hook.statistics_toldAfter _ _ _ once, Dispatch.isFailure_outcome fate,
        Dispatch.isExecuted, fate]
      exact congrArg _ (Hook.told_keeps _ Hook.aloof_statistics _ _)

end Counting

end Database

end EntityMapper
