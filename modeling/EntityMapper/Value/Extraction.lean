import EntityMapper.Text.Quoted
import EntityMapper.Value.Basic

set_option autoImplicit false

/-! Reading values at a type: lenient where storage is, so that texts that spell a number or a
date are taken for it. -/

namespace EntityMapper

/-- Why a value cannot be read at a type. -/
inductive ExtractionFault where
  | mismatch (expected found : String)
  | decimalRange
  | integerText (text : String) (fault : IntegerFault)
  | outOfRange (value : Int64) (type : String)
  | floatText (text : String) (fault : Binary64.Fault)
  | notRepresentable (value : Float)
  | decimalText (text : String) (fault : Decimal.Fault)
  | dateTimeText (text : String)
  | dateText (text : String)

namespace ExtractionFault

def message : ExtractionFault → String
  | .mismatch expected found => "expected " ++ expected ++ ", got " ++ found
  | .decimalRange => "decimal out of range for i64"
  | .integerText text fault =>
      "invalid integer " ++ Text.quoted text ++ ": " ++ fault.message
  | .outOfRange value type => Text.integer value.toInt ++ " out of range for " ++ type
  | .floatText text fault => "invalid float " ++ Text.quoted text ++ ": " ++ fault.message
  | .notRepresentable value => Binary64.plain value ++ " is not representable"
  | .decimalText text fault => "invalid decimal " ++ Text.quoted text ++ ": " ++ fault.message
  | .dateTimeText text => "invalid datetime " ++ Text.quoted text
  | .dateText text => "invalid date " ++ Text.quoted text

end ExtractionFault

namespace Value

/-- The fault of a value whose kind does not fit. -/
def mismatch {α : Type} (expected : String) (value : Value) : Except ExtractionFault α :=
  .error (.mismatch expected value.kind)

def toInt64 : Value → Except ExtractionFault Int64
  | .int value => .ok value
  | .bool value => .ok (if value then 1 else 0)
  | .decimal value =>
      if value.isIntegral then
        if Integer.fits64 value.truncated then .ok (Int64.ofInt value.truncated)
        else .error .decimalRange
      else mismatch "int" (.decimal value)
  | .text value => (Integer.read64 value).mapError (.integerText value)
  | other => mismatch "int" other

/-- Reads an integer between -2147483648 and 2147483647. -/
def toInt32 (value : Value) : Except ExtractionFault Int64 := do
  let found ← value.toInt64
  if -2147483648 ≤ found.toInt ∧ found.toInt ≤ 2147483647 then return found
  else throw (.outOfRange found "i32")

/-- Reads an integer that is not negative. -/
def toUnsigned64 (value : Value) : Except ExtractionFault Int64 := do
  let found ← value.toInt64
  if 0 ≤ found.toInt then return found else throw (.outOfRange found "u64")

def toFloat : Value → Except ExtractionFault Float
  | .text value => (Binary64.read value).mapError (.floatText value)
  | other => other.float?.elim (mismatch "number" other) .ok

def toBool : Value → Except ExtractionFault Bool
  | .bool value => .ok value
  | .int value => .ok (value != 0)
  | other => mismatch "bool" other

def toText : Value → Except ExtractionFault String
  | .text value => .ok value
  | other => mismatch "text" other

def toDecimal : Value → Except ExtractionFault Decimal
  | .decimal value => .ok value
  | .int value => .ok (Decimal.ofInt value)
  | .float value => (Decimal.ofFloat? value).elim (.error (.notRepresentable value)) .ok
  | .text value => (Decimal.read value).mapError (.decimalText value)
  | other => mismatch "decimal" other

def toDateTime : Value → Except ExtractionFault DateTime
  | .dateTime value => .ok value
  | .date value => .ok (.ofDate value)
  | .text value => (DateTime.read? value).elim (.error (.dateTimeText value)) .ok
  | other => mismatch "datetime" other

def toDate : Value → Except ExtractionFault Date
  | .date value => .ok value
  | .dateTime value => .ok value.date
  | .text value =>
      (DateTime.read? value).elim (.error (.dateText value)) fun moment => .ok moment.date
  | other => mismatch "date" other

/-- Reads a value that may be null. -/
def toOption {α : Type} (read : Value → Except ExtractionFault α) :
    Value → Except ExtractionFault (Option α)
  | .null => .ok none
  | other => (read other).map some

end Value

end EntityMapper
