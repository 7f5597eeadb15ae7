import EntityMapper.Schema.EntitySchema

set_option autoImplicit false

/-! All types of entities of a program, by name. -/

namespace EntityMapper

/-- Types of entities by name. -/
structure Registry where
  schemas : Keyed EntitySchema

namespace Registry

instance : Inhabited Registry := ⟨⟨Keyed.empty⟩⟩

def get? (registry : Registry) (entity : String) : Option EntitySchema :=
  registry.schemas.get? entity

/-- The type of a name, or the fault that there is none. -/
def find (registry : Registry) (entity : String) : Except DefinitionFault EntitySchema :=
  (registry.get? entity).elim (.error (.unknownEntity entity)) .ok

/-- The types in the order of their names. -/
def toList (registry : Registry) : List EntitySchema :=
  registry.schemas.entries.map Prod.snd

/-- Checks that a foreign key is a field of the entity that is to hold it. -/
def checkForeignKey (holder : EntitySchema) (association : Association) (foreignKey : String) :
    Except DefinitionFault Unit :=
  if (holder.column? foreignKey).isSome then .ok ()
  else .error (.unknownForeignKey foreignKey association.name holder.name)

/-- Checks that what an association names is there. -/
def checkAssociation (registry : Registry) (owner : EntitySchema) (association : Association) :
    Except DefinitionFault Unit :=
  match registry.get? association.target with
  | none => .error (.unknownTarget association.name owner.name association.target)
  | some target =>
      match association.link with
      | .belongsTo foreignKey => checkForeignKey owner association foreignKey
      | .hasOne foreignKey => checkForeignKey target association foreignKey
      | .hasMany foreignKey => checkForeignKey target association foreignKey
      | .belongsToMany junction =>
          if (registry.get? junction).isSome then .ok ()
          else .error (.unknownJunction association.name owner.name junction)

/-- Adds a type of entities under a new name. -/
def register (registry : Registry) (description : EntityDescription) :
    Except DefinitionFault Registry := do
  let schema ← description.schema
  if registry.schemas.contains description.name then
    throw (.duplicateEntity description.name)
  return ⟨registry.schemas.insert description.name schema⟩

/-- The registry of a list of descriptions, each checked alone and then against the others. -/
def ofDescriptions (descriptions : List EntityDescription) : Except DefinitionFault Registry := do
  let registry ← descriptions.foldlM register ⟨Keyed.empty⟩
  registry.toList.forM fun schema => schema.associations.forM (registry.checkAssociation schema)
  return registry

/-- The foreign keys by which an entity belongs to another. -/
def keysTo (junction : EntitySchema) (entity : String) : List String :=
  junction.associations.filterMap fun association =>
    match association.link with
    | .belongsTo foreignKey => if association.target = entity then some foreignKey else none
    | _ => none

/-- The one foreign key by which a junction belongs to an entity. -/
def junctionKey (junction : EntitySchema) (name entity : String) :
    Except DefinitionFault String :=
  match keysTo junction entity with
  | [key] => .ok key
  | [] => .error (.noJunctionKey name entity)
  | _ :: _ :: _ => .error (.severalJunctionKeys name entity)

/-- The entity between the sides of an association to many, with the keys of its rows towards
owner and target. -/
structure Junction where
  schema : EntitySchema
  ownerKey : String
  targetKey : String

/-- Finds the keys of a junction towards both sides. -/
def junction (registry : Registry) (owner target through : String) :
    Except DefinitionFault Junction := do
  let schema ← registry.find through
  let ownerKey ← junctionKey schema through owner
  let targetKey ← junctionKey schema through target
  return ⟨schema, ownerKey, targetKey⟩

end Registry

end EntityMapper
