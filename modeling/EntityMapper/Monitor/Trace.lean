import EntityMapper.Monitor.Context
import EntityMapper.Text.Word

set_option autoImplicit false

/-! What a session does to the world outside, in the order in which it does it. -/

namespace EntityMapper

inductive LogLevel where
  | error
  | warn
  | info
  | debug
  | trace
deriving DecidableEq, Repr

namespace LogLevel

def text : LogLevel → String
  | .error => "ERROR"
  | .warn => "WARN"
  | .info => "INFO"
  | .debug => "DEBUG"
  | .trace => "TRACE"

instance : Worded LogLevel where
  word := text
  all := [.error, .warn, .info, .debug, .trace]
  complete level := by cases level <;> decide
  apart := by decide

/-- The level that a word names. -/
def ofText? : String → Option LogLevel := Worded.read?

end LogLevel

/-- The value of a field of a log entry. -/
inductive LogValue where
  | text (value : String)
  | number (value : Nat)
deriving DecidableEq, Repr

/-- A line of the log. -/
structure LogEntry where
  level : LogLevel
  target : String
  fields : List (String × LogValue)
deriving DecidableEq, Repr

/-- What a recording hook was told. -/
inductive HookEvent where
  | before (context : Context)
  | after (context : Context) (outcome : Outcome)
deriving DecidableEq, Repr

/-- One thing that can be seen from outside. -/
inductive Effect where
  /-- A statement was handed to the database. -/
  | call (text : String) (params : List Value) (grouped : Bool)
  | event (event : HookEvent)
  | log (entry : LogEntry)

/-- All effects so far, the oldest first. -/
abbrev Trace := List Effect

namespace Trace

def calls (trace : Trace) : List (String × List Value × Bool) :=
  trace.filterMap fun
    | .call text params grouped => some (text, params, grouped)
    | _ => none

def events (trace : Trace) : List HookEvent :=
  trace.filterMap fun
    | .event event => some event
    | _ => none

def entries (trace : Trace) : List LogEntry :=
  trace.filterMap fun
    | .log entry => some entry
    | _ => none

end Trace

end EntityMapper
