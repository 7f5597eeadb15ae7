set_option autoImplicit false

/-! Settings of a session. -/

namespace EntityMapper

/-- The settings of a session. -/
structure Config where
  /-- The size of the page for queries that name none. -/
  pageSize : UInt64
  /-- Whether rows with attached instances are sorted by all keys. -/
  ordersPopulated : Bool
  /-- Whether a removal has to have a filter. -/
  requiresDeleteFilter : Bool
  /-- Whether statements are logged. -/
  logsStatements : Bool
  /-- The number of bytes that the log shows of a statement. -/
  loggedBytes : Nat
deriving DecidableEq, Repr

namespace Config

def standard : Config := ⟨1000, true, true, false, 200⟩

instance : Inhabited Config := ⟨standard⟩

/-- Sets the size of pages, of at least one row. -/
def withPageSize (size : UInt64) (config : Config) : Config :=
  { config with pageSize := if size = 0 then 1 else size }

end Config

end EntityMapper
