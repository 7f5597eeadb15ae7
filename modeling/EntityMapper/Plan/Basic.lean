import EntityMapper.Config
import EntityMapper.Plan.Label
import EntityMapper.Schema.Registry
import EntityMapper.Statement.Clause

set_option autoImplicit false

/-! What a query for entities returns beside them, and how its joined rows are taken apart. -/

namespace EntityMapper

/-- An association to follow, with those to follow from its target on. -/
inductive Populate where
  | mk (target : String) (nested : List Populate)

instance : Inhabited Populate := ⟨.mk "" []⟩

/-- Where the instances of a level are attached. -/
structure Origin where
  /-- The index of the level of the owners. -/
  parent : Nat
  association : Association

/-- The instances that one slice of the joined rows holds. -/
structure Level where
  label : String
  schema : EntitySchema
  /-- None for the level of the roots. -/
  origin : Option Origin

namespace Level

instance : Inhabited Level := ⟨⟨"", default, none⟩⟩

def root (schema : EntitySchema) : Level := ⟨schema.table, schema, none⟩

/-- How many instances of the level an owner has. -/
def cardinality (level : Level) : Cardinality :=
  level.origin.elim .one fun origin => origin.association.cardinality

/-- The column of the key of the level. -/
def keyColumn (level : Level) : ColumnRef :=
  .qualified level.label level.schema.primaryKey.storage

/-- A field of the level as its column. -/
def column (level : Level) (field : String) : ColumnRef :=
  .qualified level.label (level.schema.storageName field)

end Level

/-- The levels of a query, the roots first. -/
structure Plan where
  root : Level
  others : List Level

namespace Plan

instance : Inhabited Plan := ⟨⟨default, []⟩⟩

def levels (plan : Plan) : List Level := plan.root :: plan.others

/-- Whether rows hold more than the roots. -/
def isJoined (plan : Plan) : Bool := !plan.others.isEmpty

end Plan

end EntityMapper
