import EntityMapper.Schema.Column

set_option autoImplicit false

/-! Values in the form that the type of a column wants. A value that has no such form stays as
it is. -/

namespace EntityMapper

namespace DataType

def coerceBoolean : Value → Value
  | .int value => .bool (value != 0)
  | .text value =>
      if value = "1" ∨ value = "true" then .bool true
      else if value = "0" ∨ value = "false" then .bool false
      else .text value
  | other => other

def coerceDate : Value → Value
  | .dateTime value => .date value.date
  | .text value => (DateTime.read? value).elim (.text value) fun moment => .date moment.date
  | other => other

def coerceDateTime : Value → Value
  | .date value => .dateTime (.ofDate value)
  | .text value => (DateTime.read? value).elim (.text value) .dateTime
  | other => other

def coerceDecimal : Value → Value
  | .text value =>
      match Decimal.read value with
      | .ok number => .decimal number
      | .error _ => .text value
  | .int value => .decimal (.ofInt value)
  | .float value => (Decimal.ofFloat? value).elim (.float value) .decimal
  | other => other

def coerceInteger : Value → Value
  | .text value =>
      match Integer.read64 value with
      | .ok number => .int number
      | .error _ => .text value
  | .bool value => .int (if value then 1 else 0)
  | other => other

/-- A value in the form that columns of a type hold. -/
def coerce (type : DataType) (value : Value) : Value :=
  match type with
  | .varchar | .text | .longText => value
  | .tinyInt | .smallInt | .mediumInt | .int | .bigInt => coerceInteger value
  | .decimal => coerceDecimal value
  | .date => coerceDate value
  | .dateTime => coerceDateTime value
  | .boolean => coerceBoolean value

@[simp] theorem coerce_null (type : DataType) : type.coerce .null = .null := by
  cases type <;> rfl

end DataType

end EntityMapper
