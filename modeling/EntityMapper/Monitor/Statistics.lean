import EntityMapper.Monitor.Context

set_option autoImplicit false

/-! Counts of executed statements, in 64 bits. -/

namespace EntityMapper

/-- How many statements ran, by kind, and for how long. -/
structure Statistics where
  total : UInt64
  failed : UInt64
  selects : UInt64
  inserts : UInt64
  updates : UInt64
  deletes : UInt64
  others : UInt64
  nanoseconds : UInt64
deriving DecidableEq, Repr

namespace Statistics

def zero : Statistics := ⟨0, 0, 0, 0, 0, 0, 0, 0⟩

instance : Inhabited Statistics := ⟨zero⟩

/-- Counts a statement by its kind. -/
def addKind (kind : StatementKind) (counts : Statistics) : Statistics :=
  match kind with
  | .select => { counts with selects := counts.selects + 1 }
  | .insert => { counts with inserts := counts.inserts + 1 }
  | .update => { counts with updates := counts.updates + 1 }
  | .delete => { counts with deletes := counts.deletes + 1 }
  | .other => { counts with others := counts.others + 1 }

/-- Counts a statement that ran for a number of nanoseconds. -/
def add (kind : StatementKind) (failed : Bool) (duration : Nat) (counts : Statistics) :
    Statistics :=
  let counted := counts.addKind kind
  { counted with
    total := counted.total + 1
    failed := if failed then counted.failed + 1 else counted.failed
    nanoseconds := counted.nanoseconds + UInt64.ofNat (min duration 18446744073709551615) }

/-- The time of all statements in microseconds. -/
def microseconds (counts : Statistics) : Nat := counts.nanoseconds.toNat / 1000

end Statistics

end EntityMapper
