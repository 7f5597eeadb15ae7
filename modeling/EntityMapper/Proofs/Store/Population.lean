import EntityMapper.Entity.Basic
import EntityMapper.Proofs.Store.Query
import EntityMapper.Proofs.Value.Equality
import Mathlib.Data.List.Forall2

set_option autoImplicit false

/-! What it means for an entity to be populated from tables: under each association that is followed
it has the instances of exactly those rows that are linked to its own and are complete
themselves. -/

namespace EntityMapper

/-- An association to follow, with its target and what to follow from there on. -/
inductive Branch where
  | mk (association : Association) (target : EntitySchema) (nested : List Branch)

namespace Branch

def association : Branch → Association
  | .mk association _ _ => association

mutual

/-- The association that is meant from owners of a type on. -/
def ofPopulate (registry : Registry) (owner : EntitySchema) :
    Populate → Except DefinitionFault Branch
  | .mk name nested => do
      let association ← Resolution.associationFor owner name
      let target ← registry.find association.target
      return .mk association target (← ofPopulates registry target nested)

def ofPopulates (registry : Registry) (owner : EntitySchema) :
    List Populate → Except DefinitionFault (List Branch)
  | [] => .ok []
  | populate :: rest => do
      let branch ← ofPopulate registry owner populate
      return branch :: (← ofPopulates registry owner rest)

end

mutual

/-- No association is followed twice from the same owners on. -/
def Once : Branch → Prop
  | .mk _ _ nested => AllOnce nested

def AllOnce : List Branch → Prop
  | [] => True
  | branch :: rest =>
      branch.Once ∧ (∀ other ∈ rest, other.association.name ≠ branch.association.name) ∧
        AllOnce rest

end

end Branch

/-- A foreign key by which an entity belongs to another. -/
def EntitySchema.BelongsTo (schema : EntitySchema) (entity key : String) : Prop :=
  ∃ association ∈ schema.associations,
    association.target = entity ∧ association.link = .belongsTo key

/-- A row stands before another one in the order of the keys. -/
def EntitySchema.KeyLess (schema : EntitySchema) (left right : Record) : Prop :=
  ∃ first second : Int64, left.value schema.primaryKey.storage = .int first ∧
    right.value schema.primaryKey.storage = .int second ∧ first < second

/-- The entity is the instance of a row: each field holds the value of its column, and where that
is null the field may hold a default. -/
structure Entity.IsOf (entity : Entity) (schema : EntitySchema) (record : Record) : Prop where
  type : entity.schema = schema
  state : entity.state = .persisted
  stored : ∃ stored, entity.stored = some stored ∧ ∀ column ∈ schema.columns,
    stored.get? column.field = some (record.value column.storage)
  value : ∀ column ∈ schema.columns, record.value column.storage ≠ .null →
    entity.get? column.field = some (record.value column.storage)

/-- What an association of a cardinality leads to is attached under its name. -/
def Entity.Holds (entity : Entity) (association : Association) (children : List Entity) : Prop :=
  match association.cardinality with
  | .one => ∃ child, children = [child] ∧ entity.related? association.name = some (.one child)
  | .many => entity.related? association.name = some (.many children)

/-- Nothing is attached but what the branches name. -/
def Entity.HoldsOnly (entity : Entity) (branches : List Branch) : Prop :=
  ∀ name, (∀ branch ∈ branches, branch.association.name ≠ name) → entity.related? name = none

namespace Store

/-- A row of the owners and one of the targets are linked by the keys that an association
declares. -/
def Linked (store : Store) (registry : Registry) (owner target : EntitySchema) (link : Link)
    (source record : Record) : Prop :=
  match link with
  | .belongsTo key =>
      store.equal (source.value (owner.storageName key))
        (record.value target.primaryKey.storage) = true
  | .hasOne key =>
      store.equal (source.value owner.primaryKey.storage)
        (record.value (target.storageName key)) = true
  | .hasMany key =>
      store.equal (source.value owner.primaryKey.storage)
        (record.value (target.storageName key)) = true
  | .belongsToMany through =>
      ∃ junction, registry.get? through = some junction ∧
        ∃ ownerKey targetKey, junction.BelongsTo owner.name ownerKey ∧
          junction.BelongsTo target.name targetKey ∧ ∃ between ∈ store.rows junction.table,
            store.equal (source.value owner.primaryKey.storage)
                (between.value (junction.storageName ownerKey)) = true ∧
              store.equal (between.value (junction.storageName targetKey))
                (record.value target.primaryKey.storage) = true

mutual

/-- A row has a partner under every association that is followed, which is complete itself. -/
def Complete (store : Store) (registry : Registry) (owner : EntitySchema)
    (source : Record) : List Branch → Prop
  | [] => True
  | branch :: rest =>
      Reaches store registry owner source branch ∧
        Complete store registry owner source rest

def Reaches (store : Store) (registry : Registry) (owner : EntitySchema)
    (source : Record) : Branch → Prop
  | .mk association target nested => ∃ record ∈ store.rows target.table,
      store.Linked registry owner target association.link source record ∧
        Complete store registry target record nested

end

mutual

/-- Under the association the entity has the instances of the complete rows that are linked to its
own, each once. -/
def Carries (store : Store) (registry : Registry) (owner : EntitySchema) (source : Record)
    (entity : Entity) : Branch → Prop
  | .mk association target nested => ∃ (records : List Record) (children : List Entity),
      (∀ record, record ∈ records ↔ record ∈ store.rows target.table ∧
        store.Linked registry owner target association.link source record ∧
        store.Complete registry target record nested) ∧
      records.Nodup ∧
      List.Forall₂ (fun record child => child.IsOf target record ∧ child.HoldsOnly nested ∧
        CarriesAll store registry target record child nested) records children ∧
      entity.Holds association children

def CarriesAll (store : Store) (registry : Registry) (owner : EntitySchema)
    (source : Record) (entity : Entity) : List Branch → Prop
  | [] => True
  | branch :: rest =>
      Carries store registry owner source entity branch ∧
        CarriesAll store registry owner source entity rest

end

/-- The entity is the instance of a row, with what belongs under every association that is
followed, and with nothing else. -/
def Populated (store : Store) (registry : Registry) (schema : EntitySchema)
    (record : Record) (branches : List Branch) (entity : Entity) : Prop :=
  entity.IsOf schema record ∧ entity.HoldsOnly branches ∧
    store.CarriesAll registry schema record entity branches

/-- Roots are the populated instances of records, which are exactly the complete rows of a table,
each once. -/
structure PopulatedFrom (store : Store) (registry : Registry) (root : EntitySchema)
    (branches : List Branch) (records : List Record) (roots : List Entity) : Prop where
  populated : List.Forall₂ (fun record entity =>
    store.Populated registry root record branches entity) records roots
  mem_iff : ∀ record, record ∈ records ↔
    record ∈ store.rows root.table ∧ store.Complete registry root record branches
  nodup : records.Nodup

/-- What is required of the tables: keys are integers and tell rows apart, values have the form that
their column wants, and an owner has one target at most where its association promises a single
one. -/
structure Sound (store : Store) (registry : Registry) : Prop where
  keyed : ∀ (name : String) (schema : EntitySchema), registry.get? name = some schema →
    ∀ record ∈ store.rows schema.table,
      ∃ key : Int64, record.value schema.primaryKey.storage = .int key
  unique : ∀ (name : String) (schema : EntitySchema), registry.get? name = some schema →
    (store.rows schema.table).Pairwise fun left right =>
      left.value schema.primaryKey.storage ≠ right.value schema.primaryKey.storage
  coerced : ∀ (name : String) (schema : EntitySchema), registry.get? name = some schema →
    ∀ record ∈ store.rows schema.table, ∀ column ∈ schema.columns,
      column.type.coerce (record.value column.storage) = record.value column.storage
  single : ∀ (name : String) (owner : EntitySchema), registry.get? name = some owner →
    ∀ association ∈ owner.associations, ∀ key, association.link = .hasOne key →
      ∀ target, registry.get? association.target = some target →
        ∀ source ∈ store.rows owner.table,
          ∀ left ∈ store.rows target.table, ∀ right ∈ store.rows target.table,
            store.Linked registry owner target association.link source left →
              store.Linked registry owner target association.link source right → left = right

/-- No column of a table holds NaN. -/
def NanFree (store : Store) (registry : Registry) : Prop :=
  ∀ (name : String) (schema : EntitySchema), registry.get? name = some schema →
    ∀ record ∈ store.rows schema.table, record.NanFree

end Store

end EntityMapper
