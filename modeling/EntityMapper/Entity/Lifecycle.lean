set_option autoImplicit false

/-! How an instance stands to its row. -/

namespace EntityMapper

/-- An instance is built in memory, stored as a row, or removed. -/
inductive Lifecycle where
  | new
  | persisted
  | deleted
deriving DecidableEq, Repr

namespace Lifecycle

def text : Lifecycle → String
  | .new => "New"
  | .persisted => "Persisted"
  | .deleted => "Deleted"

/-- The place of a state in the life of an instance. -/
def stage : Lifecycle → Nat
  | .new => 0
  | .persisted => 1
  | .deleted => 2

end Lifecycle

end EntityMapper
