import EntityMapper.Schema.Association
import EntityMapper.Schema.Column

set_option autoImplicit false

/-! Types of entities, before and after their description is checked. -/

namespace EntityMapper

/-- The description of a type of entities. -/
structure EntityDescription where
  name : String
  table : String
  columns : List Column
  associations : List Association

/-- A type of entities, with its key among the columns. -/
structure EntitySchema where
  name : String
  table : String
  columns : List Column
  associations : List Association
  primaryKey : Column
  primaryKey_mem : primaryKey ∈ columns

namespace EntitySchema

instance : Inhabited EntitySchema :=
  ⟨⟨"", "", [default], [], default, List.mem_singleton.2 rfl⟩⟩

/-- The column of a field. -/
def column? (schema : EntitySchema) (field : String) : Option Column :=
  schema.columns.find? fun column => column.field = field

/-- The column that is stored under a name. -/
def columnStored? (schema : EntitySchema) (storage : String) : Option Column :=
  schema.columns.find? fun column => column.storage = storage

/-- The association of a name. -/
def association? (schema : EntitySchema) (name : String) : Option Association :=
  schema.associations.find? fun association => association.name = name

/-- The first association that leads to an entity. -/
def associationTo? (schema : EntitySchema) (target : String) : Option Association :=
  schema.associations.find? fun association => association.target = target

/-- The name under which a field is stored; a name that is no field stands for itself. -/
def storageName (schema : EntitySchema) (field : String) : String :=
  ((schema.column? field).map Column.storage).getD field

/-- The statement that creates the table of the entity. -/
def createTable (schema : EntitySchema) : Except QueryFault Fragment :=
  Table.create schema.table true (schema.columns.map Column.declaration)

end EntitySchema

namespace EntityDescription

/-- Fails at the first name that an earlier column has too. -/
def checkNames (entity : String) : List String → List String → List Column →
    Except DefinitionFault Unit
  | _, _, [] => .ok ()
  | fields, storages, column :: rest =>
      if fields.contains column.field then .error (.duplicateField column.field entity)
      else if storages.contains column.storage then
        .error (.duplicateColumn column.storage entity)
      else checkNames entity (column.field :: fields) (column.storage :: storages) rest

/-- Fails at the first association that bears the name of a field or of an earlier one. -/
def checkAssociationNames (entity : String) : List String → List Association →
    Except DefinitionFault Unit
  | _, [] => .ok ()
  | taken, association :: rest =>
      if taken.contains association.name then
        .error (.associationName association.name entity)
      else checkAssociationNames entity (association.name :: taken) rest

/-- The one column that is flagged as key. -/
def findKey (description : EntityDescription) :
    Except DefinitionFault { column : Column // column ∈ description.columns } :=
  match found : description.columns.filter Column.primaryKey with
  | [] => .error (.noPrimaryKey description.name)
  | [column] =>
      .ok ⟨column, (List.mem_filter.1 (found ▸ List.mem_singleton.2 rfl)).1⟩
  | _ :: _ :: _ => .error (.severalPrimaryKeys description.name)

/-- The type described, if names are distinct and one column is the key. -/
def schema (description : EntityDescription) : Except DefinitionFault EntitySchema := do
  checkNames description.name [] [] description.columns
  let key ← description.findKey
  checkAssociationNames description.name (description.columns.map Column.field)
    description.associations
  return ⟨description.name, description.table, description.columns, description.associations,
    key.1, key.2⟩

end EntityDescription

end EntityMapper
