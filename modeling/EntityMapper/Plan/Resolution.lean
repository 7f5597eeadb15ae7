import EntityMapper.Plan.Basic

set_option autoImplicit false

/-! Associations resolved to joins: each level gets a label of its own, and a join on the keys
that its association names. -/

namespace EntityMapper

/-- Levels and joins found so far, with the labels that they use. -/
structure Resolution where
  plan : Plan
  joins : List Join
  labels : List String

namespace Resolution

def start (root : EntitySchema) : Resolution := ⟨⟨.root root, []⟩, [], [root.table]⟩

/-- A label for a table, which is used from now on. -/
def reserve (table : String) (resolution : Resolution) : String × Resolution :=
  let label := Label.fresh resolution.labels table resolution.plan.levels.length
  (label, { resolution with labels := resolution.labels ++ [label] })

/-- A table under a label; its own name needs no alias. -/
def labelled (table label : String) : TableRef :=
  if table = label then .named table else ⟨table, some label⟩

def innerJoin (table label : String) (left right : ColumnRef) : Join :=
  ⟨.inner, labelled table label, left, right⟩

def addJoin (join : Join) (resolution : Resolution) : Resolution :=
  { resolution with joins := resolution.joins ++ [join] }

def addLevel (level : Level) (resolution : Resolution) : Resolution :=
  { resolution with
    plan := { resolution.plan with others := resolution.plan.others ++ [level] } }

/-- The association that a name means: the first that leads to an entity of the name, else the
one that bears it. -/
def associationFor (owner : EntitySchema) (target : String) :
    Except DefinitionFault Association :=
  ((owner.associationTo? target).or (owner.association? target)).elim
    (.error (.noAssociation owner.name target)) .ok

/-- Adds the joins that lead from owners to the targets of an association. -/
def link (registry : Registry) (owner target : Level) (association : Association)
    (resolution : Resolution) : Except DefinitionFault Resolution :=
  match association.link with
  | .belongsTo foreignKey =>
      .ok (resolution.addJoin
        (innerJoin target.schema.table target.label (owner.column foreignKey) target.keyColumn))
  | .hasOne foreignKey =>
      .ok (resolution.addJoin
        (innerJoin target.schema.table target.label owner.keyColumn (target.column foreignKey)))
  | .hasMany foreignKey =>
      .ok (resolution.addJoin
        (innerJoin target.schema.table target.label owner.keyColumn (target.column foreignKey)))
  | .belongsToMany through => do
      let junction ← registry.junction owner.schema.name target.schema.name through
      let (label, reserved) := resolution.reserve junction.schema.table
      let between : Level := ⟨label, junction.schema, none⟩
      return (reserved.addJoin
        (innerJoin junction.schema.table label owner.keyColumn
          (between.column junction.ownerKey))).addJoin
        (innerJoin target.schema.table target.label (between.column junction.targetKey)
          target.keyColumn)

mutual

/-- Follows an association and those nested in it, from the level of its owners on. -/
def follow (registry : Registry) (parent : Nat) (owner : Level) :
    Populate → Resolution → Except DefinitionFault Resolution
  | .mk name nested, resolution => do
      let association ← associationFor owner.schema name
      let schema ← registry.find association.target
      let (label, reserved) := resolution.reserve schema.table
      let level : Level := ⟨label, schema, some ⟨parent, association⟩⟩
      let linked ← reserved.link registry owner level association
      followAll registry linked.plan.levels.length level nested (linked.addLevel level)

def followAll (registry : Registry) (parent : Nat) (owner : Level) :
    List Populate → Resolution → Except DefinitionFault Resolution
  | [], resolution => .ok resolution
  | populate :: rest, resolution => do
      followAll registry parent owner rest (← follow registry parent owner populate resolution)

end

/-- Follows associations from the roots on. -/
def ofPopulates (registry : Registry) (root : EntitySchema) (populates : List Populate) :
    Except DefinitionFault Resolution :=
  followAll registry 0 (.root root) populates (start root)

/-- The column that a reference to a field means: bare ones are fields of the roots, qualified
ones fields of the level with their label. -/
def mapColumn (resolution : Resolution) (column : ColumnRef) : ColumnRef :=
  match column.table with
  | none =>
      if resolution.plan.isJoined then resolution.plan.root.column column.column
      else .bare (resolution.plan.root.schema.storageName column.column)
  | some table =>
      match resolution.plan.levels.find? fun level => level.label = table with
      | some level => level.column column.column
      | none => column

end Resolution

end EntityMapper
