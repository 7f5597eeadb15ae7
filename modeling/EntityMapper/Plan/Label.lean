import EntityMapper.Text.Digits

set_option autoImplicit false

/-! Labels for tables that occur several times in a query. -/

namespace EntityMapper.Label

/-- A table name with a number behind it. -/
def numbered (table : String) (n : Nat) : String := table ++ "_" ++ Text.natural n

/-- The first numbered name that is not used, among the next `fuel` ones and the one after
them. -/
def search (used : List String) (table : String) : Nat → Nat → String
  | 0, n => numbered table n
  | fuel + 1, n =>
      if used.contains (numbered table n) then search used table fuel (n + 1)
      else numbered table n

/-- A label that is not used: the name of the table if it is free, else numbered from `first`
on. -/
def fresh (used : List String) (table : String) (first : Nat) : String :=
  if used.contains table then search used table used.length first else table

end EntityMapper.Label
