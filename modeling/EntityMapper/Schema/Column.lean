import EntityMapper.Pattern.Basic
import EntityMapper.Schema.Supply
import EntityMapper.Statement.Table

set_option autoImplicit false

/-! Columns of entities: a field, the column that stores it, and what may stand in it. -/

namespace EntityMapper

/-- What has to hold of a value that is not null. -/
inductive Rule where
  | minLength (least : Nat)
  | maxLength (greatest : Nat)
  | min (least : Float)
  | max (greatest : Float)
  | email
  | url
  | pattern (pattern : Pattern.Node)
  | oneOf (values : List Value)

/-- A field of an entity. -/
structure Column where
  field : String
  /-- The column of the table. -/
  storage : String
  type : DataType
  size : Option Nat
  scale : Option Nat
  defaultValue : Option DefaultValue
  required : Bool
  primaryKey : Bool
  autoIncrement : Bool
  unique : Bool
  rules : List Rule

namespace Column

/-- A field that is stored under its own name and may hold any value of its type. -/
def plain (field : String) (type : DataType) : Column :=
  ⟨field, field, type, none, none, none, false, false, false, false, []⟩

instance : Inhabited Column := ⟨plain "" .int⟩

/-- The value of the column when none is given. -/
def drawDefault (column : Column) : Draw Value :=
  match column.defaultValue with
  | some source => source.draw column.type
  | none => pure .null

/-- Whether the table lets the column be null. -/
def nullable (column : Column) : Bool := !column.required && !column.primaryKey

/-- The column as its table declares it. -/
def declaration (column : Column) : TableColumn :=
  ⟨column.storage, column.type,
    { size := column.size
      scale := column.scale
      nullable := column.nullable
      primaryKey := column.primaryKey
      unique := column.unique
      autoIncrement := column.autoIncrement
      initial := column.defaultValue.bind DefaultValue.fixed? }⟩

end Column

end EntityMapper
