import EntityMapper.Monitor.Hook
import Mathlib.Logic.Function.Iterate

set_option autoImplicit false

/-! How trees of hooks are told of statements: hook by hook, as if the hooks at the leaves stood in
one list. Before a statement they are told up to the first that refuses it, after it all of them
once. -/

namespace EntityMapper.Hook

mutual

/-- The hooks of a tree that are not made of others, in the order in which they are told. -/
def leaves : Hook → List Hook
  | .statistics => [.statistics]
  | .recorder => [.recorder]
  | .silent => [.silent]
  | .gate refuses => [.gate refuses]
  | .logger level limit => [.logger level limit]
  | .composite hooks => leavesAll hooks

def leavesAll : List Hook → List Hook
  | [] => []
  | hook :: rest => leaves hook ++ leavesAll rest

end

/-- The hook that counts statements. -/
def counts : Hook → Bool
  | .statistics => true
  | _ => false

section Before

variable (context : Context)

/-- What is known when hooks have been told of a statement, each after those before it. -/
def told (hooks : List Hook) (monitor : Monitor) : Monitor :=
  hooks.foldl (fun monitor hook => (before context hook monitor).2) monitor

/-- Every hook that is told after those before it has no reason to refuse the statement. -/
def Continue (hooks : List Hook) (monitor : Monitor) : Prop :=
  ∀ passed hook rest, hooks = passed ++ hook :: rest →
    (before context hook (told context passed monitor)).1 = none

theorem continue_nil (monitor : Monitor) : Continue context [] monitor := by
  intro passed hook rest same
  cases passed <;> cases same

theorem continue_cons {hook : Hook} {rest : List Hook} {monitor : Monitor} :
    Continue context (hook :: rest) monitor ↔
      (before context hook monitor).1 = none ∧
        Continue context rest (before context hook monitor).2 := by
  constructor
  · intro continued
    refine ⟨continued [] hook rest rfl, fun passed other more same => ?_⟩
    exact continued (hook :: passed) other more (congrArg (List.cons hook) same)
  · rintro ⟨first, others⟩ passed other more same
    cases passed with
    | nil =>
        obtain ⟨rfl, rfl⟩ := List.cons.inj same
        exact first
    | cons head passed =>
        obtain ⟨rfl, rfl⟩ := List.cons.inj same
        exact others passed other more rfl

theorem beforeAll_append (first second : List Hook) (monitor : Monitor) :
    beforeAll context (first ++ second) monitor =
      match beforeAll context first monitor with
      | (some reason, told) => (some reason, told)
      | (none, told) => beforeAll context second told := by
  induction first generalizing monitor with
  | nil => rfl
  | cons hook rest ih =>
      rw [List.cons_append, beforeAll, beforeAll]
      obtain ⟨_ | reason, told⟩ := before context hook monitor
      · exact ih told
      · rfl

theorem beforeAll_singleton (hook : Hook) (monitor : Monitor) :
    beforeAll context [hook] monitor = before context hook monitor := by
  rw [beforeAll]
  obtain ⟨_ | reason, told⟩ := before context hook monitor <;> rfl

mutual

/-- A tree of hooks answers as its leaves do, one after the other. -/
theorem before_eq_leaves : (hook : Hook) → (monitor : Monitor) →
    before context hook monitor = beforeAll context (leaves hook) monitor
  | .statistics, _ => rfl
  | .recorder, _ => rfl
  | .silent, _ => rfl
  | .gate _, monitor => (beforeAll_singleton context _ monitor).symm
  | .logger _ _, _ => rfl
  | .composite hooks, monitor => by rw [before, leaves, beforeAll_eq_leaves hooks monitor]

theorem beforeAll_eq_leaves : (hooks : List Hook) → (monitor : Monitor) →
    beforeAll context hooks monitor = beforeAll context (leavesAll hooks) monitor
  | [], _ => rfl
  | hook :: rest, monitor => by
      rw [leavesAll, beforeAll_append, beforeAll, before_eq_leaves hook monitor]
      obtain ⟨_ | reason, told⟩ := beforeAll context (leaves hook) monitor
      · exact beforeAll_eq_leaves rest told
      · rfl

end

/-- Hooks that are told in turn: all of them let the statement pass, or the first that does not
gives its reason, and those behind it are not told. -/
theorem beforeAll_cases (hooks : List Hook) (monitor : Monitor) :
    (Continue context hooks monitor ∧
      beforeAll context hooks monitor = (none, told context hooks monitor)) ∨
    ∃ passed hook rest reason last, hooks = passed ++ hook :: rest ∧
      Continue context passed monitor ∧
      before context hook (told context passed monitor) = (some reason, last) ∧
      beforeAll context hooks monitor = (some reason, last) := by
  induction hooks generalizing monitor with
  | nil => exact Or.inl ⟨continue_nil context monitor, rfl⟩
  | cons hook rest ih =>
      rw [beforeAll, continue_cons]
      cases here : before context hook monitor with
      | mk verdict next =>
          cases verdict with
          | some reason =>
              exact Or.inr
                ⟨[], hook, rest, reason, next, rfl, continue_nil context monitor, here, rfl⟩
          | none =>
              have begun (others : List Hook) :
                  told context (hook :: others) monitor = told context others next := by
                rw [told, List.foldl_cons, here]
                rfl
              rcases ih next with ⟨continued, all⟩ |
                ⟨passed, other, more, reason, last, split, continued, refused, all⟩
              · rw [begun]
                exact Or.inl ⟨⟨rfl, continued⟩, all⟩
              · refine Or.inr ⟨hook :: passed, other, more, reason, last,
                  congrArg (List.cons hook) split, ?_, ?_, all⟩
                · rw [continue_cons, here]
                  exact ⟨rfl, continued⟩
                · rw [begun]
                  exact refused

/-- A view on what is known that hides the notes of hooks and what they write to the log. -/
structure Aloof {α : Type} (view : Monitor → α) : Prop where
  event : ∀ event monitor, view (monitor.record (.event event)) = view monitor
  log : ∀ entry monitor, view (monitor.record (.log entry)) = view monitor

section Keeping

variable {α : Type} {view : Monitor → α}

mutual

/-- Hooks that are told of a statement that is about to run note it and write to the log at most. -/
theorem before_keeps (aloof : Aloof view) : (hook : Hook) → (monitor : Monitor) →
    view (before context hook monitor).2 = view monitor
  | .statistics, _ => rfl
  | .recorder, monitor => aloof.event _ monitor
  | .silent, _ => rfl
  | .gate _, _ => rfl
  | .logger _ _, monitor => aloof.log _ monitor
  | .composite hooks, monitor => by rw [before, beforeAll_keeps aloof hooks monitor]

theorem beforeAll_keeps (aloof : Aloof view) : (hooks : List Hook) → (monitor : Monitor) →
    view (beforeAll context hooks monitor).2 = view monitor
  | [], _ => rfl
  | hook :: rest, monitor => by
      have here := before_keeps aloof hook monitor
      rw [beforeAll]
      generalize before context hook monitor = reading at here ⊢
      obtain ⟨_ | reason, told⟩ := reading
      · exact (beforeAll_keeps aloof rest told).trans here
      · exact here

end

theorem told_keeps (aloof : Aloof view) (hooks : List Hook) (monitor : Monitor) :
    view (told context hooks monitor) = view monitor := by
  induction hooks generalizing monitor with
  | nil => rfl
  | cons hook rest ih => exact (ih _).trans (before_keeps context aloof hook monitor)

end Keeping

end Before

section After

variable (context : Context) (duration : Nat) (outcome : Outcome)

/-- What is known when each of some hooks has been told once what came of a statement. -/
def toldAfter (hooks : List Hook) (monitor : Monitor) : Monitor :=
  hooks.foldl (fun monitor hook => after context duration outcome hook monitor) monitor

theorem toldAfter_append (first second : List Hook) (monitor : Monitor) :
    toldAfter context duration outcome (first ++ second) monitor =
      toldAfter context duration outcome second
        (toldAfter context duration outcome first monitor) :=
  List.foldl_append

mutual

theorem after_eq_leaves : (hook : Hook) → (monitor : Monitor) →
    after context duration outcome hook monitor =
      toldAfter context duration outcome (leaves hook) monitor
  | .statistics, _ => rfl
  | .recorder, _ => rfl
  | .silent, _ => rfl
  | .gate _, _ => rfl
  | .logger _ _, _ => rfl
  | .composite hooks, monitor => by rw [after, leaves, afterAll_eq_leaves hooks monitor]

/-- Afterwards every leaf of a tree is told, once and in turn. -/
theorem afterAll_eq_leaves : (hooks : List Hook) → (monitor : Monitor) →
    afterAll context duration outcome hooks monitor =
      toldAfter context duration outcome (leavesAll hooks) monitor
  | [], _ => rfl
  | hook :: rest, monitor => by
      rw [afterAll, leavesAll, toldAfter_append, after_eq_leaves hook monitor,
        afterAll_eq_leaves rest]

end

end After

section Statistics

theorem aloof_statistics : Aloof Monitor.statistics := ⟨fun _ _ => rfl, fun _ _ => rfl⟩

variable (context : Context) (duration : Nat) (outcome : Outcome)

mutual

theorem statistics_after : (hook : Hook) → (monitor : Monitor) →
    (after context duration outcome hook monitor).statistics =
      (Statistics.add context.kind outcome.isFailure duration)^[(leaves hook).countP counts]
        monitor.statistics
  | .statistics, _ => rfl
  | .recorder, _ => rfl
  | .silent, _ => rfl
  | .gate _, _ => rfl
  | .logger _ _, _ => rfl
  | .composite hooks, monitor => by rw [after, leaves, statistics_afterAll hooks monitor]

/-- Afterwards a statement is counted as often as the hook that counts occurs. -/
theorem statistics_afterAll : (hooks : List Hook) → (monitor : Monitor) →
    (afterAll context duration outcome hooks monitor).statistics =
      (Statistics.add context.kind outcome.isFailure duration)^[(leavesAll hooks).countP counts]
        monitor.statistics
  | [], _ => rfl
  | hook :: rest, monitor => by
      rw [afterAll, statistics_afterAll rest, statistics_after hook, leavesAll, List.countP_append,
        Nat.add_comm, Function.iterate_add_apply]

end

/-- A hook that counts and occurs once counts a statement once. -/
theorem statistics_toldAfter {hooks : List Hook} (once : (leavesAll hooks).countP counts = 1)
    (monitor : Monitor) :
    (toldAfter context duration outcome (leavesAll hooks) monitor).statistics =
      monitor.statistics.add context.kind outcome.isFailure duration := by
  rw [← afterAll_eq_leaves, statistics_afterAll, once]
  rfl

end Statistics

end EntityMapper.Hook
