import EntityMapper.Keyed
import EntityMapper.Value.Basic

set_option autoImplicit false

/-! Columns with their values, and rows made of them. -/

namespace EntityMapper

/-- The values of the columns of one table. -/
abbrev Record := Keyed Value

namespace Record

def sameEntries : List (String × Value) → List (String × Value) → Bool
  | [], [] => true
  | left :: lefts, right :: rights =>
      left.1 == right.1 && left.2.same right.2 && sameEntries lefts rights
  | _, _ => false

/-- Whether two records have the same columns with equal values. -/
def same (left right : Record) : Bool := sameEntries left.entries right.entries

/-- Whether some column holds a value. -/
def hasValue (record : Record) : Bool := record.entries.any fun entry => !entry.2.isNull

theorem hasValue_iff {record : Record} :
    record.hasValue = true ↔ ∃ entry ∈ record.entries, entry.2.isNull = false := by
  simp [hasValue]

end Record

/-- A row of a result: for each label the columns of its table. -/
abbrev Row := Keyed Record

namespace Row

/-- The label of rows that are not split by tables. -/
def flatLabel : String := ""

/-- A row that is not split by tables. -/
def flat (record : Record) : Row := Keyed.empty.insert flatLabel record

def flat? (row : Row) : Option Record := row.get? flatLabel

end Row

end EntityMapper
