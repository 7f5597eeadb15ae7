import EntityMapper.Text.Quoted
import EntityMapper.Value.Basic

set_option autoImplicit false

/-! Values as messages show them. -/

namespace EntityMapper.Value

mutual

/-- The text of a value: texts are quoted, lists stand in brackets. -/
def display : Value → String
  | .null => "NULL"
  | .bool value => if value then "true" else "false"
  | .int value => Text.integer value.toInt
  | .float value => Binary64.plain value
  | .decimal value => value.text
  | .text value => Text.quoted value
  | .date value => value.text
  | .dateTime value => value.spaced
  | .list items => "[" ++ displayItems items ++ "]"

def displayItems : List Value → String
  | [] => ""
  | [item] => display item
  | item :: rest => display item ++ ", " ++ displayItems rest

end

end EntityMapper.Value
