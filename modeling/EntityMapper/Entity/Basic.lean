import EntityMapper.Entity.Coercion
import EntityMapper.Entity.Record
import EntityMapper.Error
import EntityMapper.Schema.EntitySchema

set_option autoImplicit false

/-! Instances of entities: the values of one row, with the instances attached to it. -/

namespace EntityMapper

mutual

/-- One row of a type of entities. -/
inductive Entity where
  /-- `stored` holds the values as they were read, before defaults were put in. -/
  | mk (schema : EntitySchema) (fields : Record) (stored : Option Record)
      (relations : List (String × Related)) (state : Lifecycle)

/-- What is attached under the name of an association. -/
inductive Related where
  | one (entity : Entity)
  | many (entities : List Entity)

end

/-- By which names a record names its columns. -/
inductive FieldSource where
  | field
  | storage
deriving DecidableEq, Repr

namespace FieldSource

/-- The name of a column in records of the source. -/
def key (source : FieldSource) (column : Column) : String :=
  match source with
  | .field => column.field
  | .storage => column.storage

/-- Given values make a new instance, stored ones a persisted one. -/
def state : FieldSource → Lifecycle
  | .field => .new
  | .storage => .persisted

end FieldSource

namespace Entity

def schema : Entity → EntitySchema
  | .mk schema _ _ _ _ => schema

def fields : Entity → Record
  | .mk _ fields _ _ _ => fields

def stored : Entity → Option Record
  | .mk _ _ stored _ _ => stored

/-- What is attached, in the order of the names of the associations. -/
def relations : Entity → List (String × Related)
  | .mk _ _ _ relations _ => relations

def state : Entity → Lifecycle
  | .mk _ _ _ _ state => state

/-- The name of the type. -/
def typeName (entity : Entity) : String := entity.schema.name

def withState (state : Lifecycle) : Entity → Entity
  | .mk schema fields stored relations _ => .mk schema fields stored relations state

def withRelations (relations : List (String × Related)) : Entity → Entity
  | .mk schema fields stored _ state => .mk schema fields stored relations state

@[simp] theorem relations_withRelations (relations : List (String × Related)) (entity : Entity) :
    (entity.withRelations relations).relations = relations := by cases entity; rfl

/-- The value given for a column, in the form that the column wants; none for null. -/
def input? (column : Column) (source : FieldSource) (record : Record) : Option Value :=
  ((record.get? (source.key column)).filter fun value => !value.isNull).map column.type.coerce

/-- The values of all columns as they are given, null where none is. -/
def storedFields (source : FieldSource) (record : Record) (columns : List Column) : Record :=
  columns.foldl
    (fun stored column => stored.insert column.field ((input? column source record).getD .null))
    Keyed.empty

/-- Puts the value of each column under the name of its field, the default where none is
given. -/
def drawFields (source : FieldSource) (record : Record) : List Column → Record → Draw Record
  | [], fields => pure fields
  | column :: rest, fields => do
      let value ←
        match input? column source record with
        | some value => pure value
        | none => column.drawDefault
      drawFields source record rest (fields.insert column.field value)

/-- The instance of a record: every column has a value, and other names are left out. -/
def hydrate (schema : EntitySchema) (record : Record) (source : FieldSource) : Draw Entity := do
  let fields ← drawFields source record schema.columns Keyed.empty
  let stored :=
    match source with
    | .field => none
    | .storage => some (storedFields source record schema.columns)
  return .mk schema fields stored [] source.state

/-- A new instance with values by field. -/
def create (schema : EntitySchema) (values : List (String × Value)) : Draw Entity :=
  hydrate schema (Keyed.ofList values) .field

def get? (entity : Entity) (field : String) : Option Value := entity.fields.get? field

/-- The value of a field, null for what is no field. -/
def value (entity : Entity) (field : String) : Value := (entity.get? field).getD .null

/-- Reads a field at a type. -/
def read {α : Type} (extract : Value → Except ExtractionFault α) (entity : Entity)
    (field : String) : Result α :=
  match entity.get? field with
  | none => .error (.decode field (.unknownField entity.typeName field))
  | some value => (extract value).mapError fun fault => .decode field (.extraction fault)

/-- Gives a field a value, in the form that its column wants. -/
def set (field : String) (value : Value) (entity : Entity) : Except QueryFault Entity :=
  match entity with
  | .mk schema fields _ relations state =>
      match schema.column? field with
      | none => .error (.unknownField schema.name field)
      | some column =>
          .ok (.mk schema (fields.insert field (column.type.coerce value)) none relations state)

/-- The value of the key, if it has one. -/
def primaryKey? (entity : Entity) : Option Value :=
  (entity.get? entity.schema.primaryKey.field).filter fun value => !value.isNull

def related? (entity : Entity) (name : String) : Option Related :=
  Entries.get? name entity.relations

/-- The one instance attached under a name. -/
def one? (entity : Entity) (name : String) : Option Entity :=
  match entity.related? name with
  | some (.one related) => some related
  | _ => none

/-- The collection attached under a name. -/
def many? (entity : Entity) (name : String) : Option (List Entity) :=
  match entity.related? name with
  | some (.many related) => some related
  | _ => none

/-- Equality of two values that may be missing. -/
def sameValue : Option Value → Option Value → Bool
  | none, none => true
  | some left, some right => left.same right
  | _, _ => false

/-- Whether two instances are of one type and have equal values. Two that were read compare
what was stored, so that made-up defaults never tell a row from itself. -/
def isSame (left right : Entity) : Bool :=
  left.typeName = right.typeName &&
    match left.stored, right.stored with
    | some first, some second => Record.same first second
    | _, _ => left.schema.columns.all fun column =>
        sameValue (left.get? column.field) (right.get? column.field)

end Entity

end EntityMapper
