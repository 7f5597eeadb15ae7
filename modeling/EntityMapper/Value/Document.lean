import EntityMapper.Json.Printer
import EntityMapper.Value.Basic

set_option autoImplicit false

/-! Values as documents, and documents as values. -/

namespace EntityMapper.Value

mutual

/-- The document of a value: dates and decimals become texts, numbers that are not finite
become null. -/
def toJson : Value → Json
  | .null => .null
  | .bool value => .bool value
  | .int value => .integer value.toInt
  | .float value => if Binary64.isFinite value then .float value else .null
  | .decimal value => .text value.text
  | .text value => .text value
  | .date value => .text value.text
  | .dateTime value => .text value.text
  | .list items => .array (itemsToJson items)

def itemsToJson : List Value → List Json
  | [] => []
  | item :: rest => toJson item :: itemsToJson rest

end

theorem itemsToJson_eq_map (items : List Value) : itemsToJson items = items.map toJson := by
  induction items with
  | nil => rfl
  | cons item rest ih => rw [itemsToJson, ih, List.map_cons]

mutual

/-- The value of a document: integers out of range become floating-point numbers, and an
object becomes its compact text. -/
def ofJson : Json → Value
  | .null => .null
  | .bool value => .bool value
  | .integer value =>
      if Integer.fits64 value then .int (Int64.ofInt value) else .float (Binary64.ofInt value)
  | .float value => .float value
  | .text value => .text value
  | .array items => .list (ofItems items)
  | .object members => .text (Json.render (.object members))

def ofItems : List Json → List Value
  | [] => []
  | item :: rest => ofJson item :: ofItems rest

end

theorem ofItems_eq_map (items : List Json) : ofItems items = items.map ofJson := by
  induction items with
  | nil => rfl
  | cons item rest ih => rw [ofItems, ih, List.map_cons]

end EntityMapper.Value
