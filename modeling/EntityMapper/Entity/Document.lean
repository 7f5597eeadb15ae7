import EntityMapper.Entity.Basic
import EntityMapper.Value.Document

set_option autoImplicit false

/-! Instances as documents: fields in the order of their columns, then what is attached. -/

namespace EntityMapper.Entity

/-- The members of the fields. -/
def fieldMembers (schema : EntitySchema) (fields : Record) : List (String × Json) :=
  schema.columns.map fun column =>
    (column.field, ((fields.get? column.field).getD .null).toJson)

mutual

/-- The document of an instance. -/
def toJson : Entity → Json
  | .mk schema fields _ relations _ =>
      .object (Json.ofMembers (fieldMembers schema fields ++ relationMembers relations))

def relationMembers : List (String × Related) → List (String × Json)
  | [] => []
  | (name, related) :: rest => (name, relatedToJson related) :: relationMembers rest

/-- The document of what is attached: an object, or an array of objects. -/
def relatedToJson : Related → Json
  | .one entity => toJson entity
  | .many entities => .array (listToJson entities)

def listToJson : List Entity → List Json
  | [] => []
  | entity :: rest => toJson entity :: listToJson rest

end

end EntityMapper.Entity
