import EntityMapper.Monitor.Statistics
import EntityMapper.Monitor.Trace

set_option autoImplicit false

/-! Hooks, which see every statement before and after it runs and can refuse it. -/

namespace EntityMapper

/-- What hooks have done and counted. -/
structure Monitor where
  trace : Trace
  statistics : Statistics

namespace Monitor

def empty : Monitor := ⟨[], .zero⟩

instance : Inhabited Monitor := ⟨empty⟩

def record (effect : Effect) (monitor : Monitor) : Monitor :=
  { monitor with trace := monitor.trace ++ [effect] }

end Monitor

/-- Something that watches statements. -/
inductive Hook where
  /-- Counts statements. -/
  | statistics
  /-- Notes what it is told. -/
  | recorder
  /-- Does nothing. -/
  | silent
  /-- Refuses statements, for a reason that may hang on all that has happened. -/
  | gate (refuses : Trace → Context → Option String)
  /-- Writes statements to the log, cut to a number of bytes if one is given. -/
  | logger (level : LogLevel) (limit : Option Nat)
  /-- Several hooks in their order. -/
  | composite (hooks : List Hook)

namespace Hook

/-- The target of log entries on statements. -/
def statementTarget : String := "tydb.sql"

/-- A text that may be missing, as the log shows it. -/
def orDash (text : Option String) : LogValue := .text (text.getD "-")

def announcement (level : LogLevel) (limit : Option Nat) (context : Context) : LogEntry :=
  ⟨level, statementTarget,
    [("query_type", .text context.kind.text), ("tag", orDash context.tag),
      ("entity", orDash context.entity), ("param_count", .number context.paramCount),
      ("sql", .text (limit.elim context.text fun bytes => Text.abridge bytes context.text))]⟩

def conclusion (level : LogLevel) (context : Context) (outcome : Outcome) : LogEntry :=
  match outcome with
  | .failed message =>
      ⟨.warn, statementTarget,
        [("tag", orDash context.tag), ("error", .text message),
          ("message", .text "statement failed")]⟩
  | _ =>
      ⟨level, statementTarget, [("tag", orDash context.tag), ("result", .text outcome.text)]⟩

mutual

/-- Tells a hook of a statement that is about to run; it may answer with a reason to refuse
it. -/
def before (context : Context) : Hook → Monitor → Option String × Monitor
  | .statistics, monitor => (none, monitor)
  | .recorder, monitor => (none, monitor.record (.event (.before context)))
  | .silent, monitor => (none, monitor)
  | .gate refuses, monitor => (refuses monitor.trace context, monitor)
  | .logger level limit, monitor =>
      (none, monitor.record (.log (announcement level limit context)))
  | .composite hooks, monitor => beforeAll context hooks monitor

/-- Tells hooks in their order, up to the first that refuses. -/
def beforeAll (context : Context) : List Hook → Monitor → Option String × Monitor
  | [], monitor => (none, monitor)
  | hook :: rest, monitor =>
      match before context hook monitor with
      | (some reason, told) => (some reason, told)
      | (none, told) => beforeAll context rest told

end

mutual

/-- Tells a hook what came of a statement. -/
def after (context : Context) (duration : Nat) (outcome : Outcome) : Hook → Monitor → Monitor
  | .statistics, monitor =>
      { monitor with
        statistics := monitor.statistics.add context.kind outcome.isFailure duration }
  | .recorder, monitor => monitor.record (.event (.after context outcome))
  | .silent, monitor => monitor
  | .gate _, monitor => monitor
  | .logger level _, monitor => monitor.record (.log (conclusion level context outcome))
  | .composite hooks, monitor => afterAll context duration outcome hooks monitor

/-- Tells hooks in their order. -/
def afterAll (context : Context) (duration : Nat) (outcome : Outcome) :
    List Hook → Monitor → Monitor
  | [], monitor => monitor
  | hook :: rest, monitor =>
      afterAll context duration outcome rest (after context duration outcome hook monitor)

end

end Hook

end EntityMapper
