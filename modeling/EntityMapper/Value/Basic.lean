import EntityMapper.Calendar.DateTime
import EntityMapper.Number.Decimal

set_option autoImplicit false

/-! Values that statements bind and that rows hold. -/

namespace EntityMapper

/-- A bound parameter, or what a column holds. -/
inductive Value where
  | null
  | bool (value : Bool)
  | int (value : Int64)
  | float (value : Float)
  | decimal (value : Decimal)
  | text (value : String)
  | date (value : Date)
  | dateTime (value : DateTime)
  | list (items : List Value)

namespace Value

instance : Inhabited Value := ⟨.null⟩

def isNull : Value → Bool
  | .null => true
  | _ => false

theorem isNull_iff (value : Value) : value.isNull = true ↔ value = .null := by
  cases value <;> simp [isNull]

mutual

/-- Whether two values are of one kind and equal: numbers by what they denote, so that NaN
equals nothing, and lists item by item. -/
def same : Value → Value → Bool
  | .null, .null => true
  | .bool left, .bool right => left == right
  | .int left, .int right => left == right
  | .float left, .float right => Binary64.same left right
  | .decimal left, .decimal right => left.same right
  | .text left, .text right => left == right
  | .date left, .date right => left == right
  | .dateTime left, .dateTime right => left == right
  | .list left, .list right => sameItems left right
  | _, _ => false

def sameItems : List Value → List Value → Bool
  | [], [] => true
  | left :: lefts, right :: rights => same left right && sameItems lefts rights
  | _, _ => false

end

instance : BEq Value := ⟨same⟩

/-- The name of the kind of a value. -/
def kind : Value → String
  | .null => "null"
  | .bool _ => "bool"
  | .int _ => "int"
  | .float _ => "float"
  | .decimal _ => "decimal"
  | .text _ => "text"
  | .date _ => "date"
  | .dateTime _ => "datetime"
  | .list _ => "list"

def text? : Value → Option String
  | .text value => some value
  | _ => none

/-- The floating-point number for a number of any kind. -/
def float? : Value → Option Float
  | .int value => some (Binary64.ofInt value.toInt)
  | .float value => some value
  | .decimal value => some value.toFloat
  | _ => none

/-- A number as a bound parameter, held at the greatest integer of 64 bits. -/
def ofCount (n : Nat) : Value := .int (Int64.ofNat (min n 9223372036854775807))

end Value

end EntityMapper
