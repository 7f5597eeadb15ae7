import EntityMapper.Proofs.Statement.Veil

set_option autoImplicit false

/-! Types of entities without their defaults. Associations are resolved in the same way, to the same
labels and joins, so that queries for entities come to the same description but for its values. -/

namespace EntityMapper

open Outcome

namespace Keyed

variable {α β : Type}

/-- Changes all values of a map. -/
def map (change : α → β) (keyed : Keyed α) : Keyed β :=
  ⟨keyed.entries.map fun entry => (entry.1, change entry.2), by
    rw [Entries.Sorted, List.pairwise_map]
    exact keyed.sorted⟩

theorem get?_map (change : α → β) (key : String) (keyed : Keyed α) :
    (keyed.map change).get? key = (keyed.get? key).map change := by
  obtain ⟨entries, sorted⟩ := keyed
  change Entries.get? key (entries.map fun entry => (entry.1, change entry.2)) =
    (Entries.get? key entries).map change
  clear sorted
  induction entries with
  | nil => rfl
  | cons entry rest ih =>
      rw [List.map_cons, Entries.get?_cons, Entries.get?_cons, ih]
      split <;> rfl

end Keyed

/-- The source of a default, but without a value that is fixed. -/
def DefaultValue.veiled : DefaultValue → DefaultValue
  | .fixed _ => .fixed .null
  | .generator draw => .generator draw
  | .now => .now
  | .timeIdentifier => .timeIdentifier
  | .randomIdentifier => .randomIdentifier

def Column.veiled (column : Column) : Column :=
  { column with defaultValue := column.defaultValue.map DefaultValue.veiled }

namespace EntitySchema

/-- The type of entities with its columns and associations, but without its defaults. -/
def veiled (schema : EntitySchema) : EntitySchema :=
  { schema with
    columns := schema.columns.map Column.veiled
    primaryKey := schema.primaryKey.veiled
    primaryKey_mem := List.mem_map_of_mem schema.primaryKey_mem }

theorem table_veiled (schema : EntitySchema) : schema.veiled.table = schema.table := rfl

@[simp] theorem storageName_veiled (schema : EntitySchema) (field : String) :
    schema.veiled.storageName field = schema.storageName field := by
  have found : schema.veiled.column? field = (schema.column? field).map Column.veiled :=
    List.find?_map
  rw [storageName, storageName, found, Option.map_map]
  rfl

end EntitySchema

namespace Registry

def veiled (registry : Registry) : Registry := ⟨registry.schemas.map EntitySchema.veiled⟩

theorem find_veiled (registry : Registry) (entity : String) :
    registry.veiled.find entity = (registry.find entity).map EntitySchema.veiled := by
  have found : registry.veiled.get? entity = (registry.get? entity).map EntitySchema.veiled :=
    Keyed.get?_map _ _ _
  rw [find, find, found]
  cases registry.get? entity <;> rfl

theorem junction_veiled (registry : Registry) (owner target through : String) :
    registry.veiled.junction owner target through =
      (registry.junction owner target through).map fun junction =>
        { junction with schema := junction.schema.veiled } := by
  rw [junction, find_veiled]
  refine map_bind fun schema => ?_
  -- The keys of a junction are found by its associations.
  change (do
    let ownerKey ← junctionKey schema through owner
    let targetKey ← junctionKey schema through target
    return Junction.mk schema.veiled ownerKey targetKey : Except DefinitionFault Junction) = _
  cases junctionKey schema through owner with
  | error fault => rfl
  | ok ownerKey => cases junctionKey schema through target <;> rfl

end Registry

namespace Level

def veiled (level : Level) : Level := { level with schema := level.schema.veiled }

@[simp] theorem keyColumn_veiled (level : Level) : level.veiled.keyColumn = level.keyColumn := rfl

@[simp] theorem column_veiled (level : Level) (field : String) :
    level.veiled.column field = level.column field :=
  congrArg (ColumnRef.qualified level.label) (level.schema.storageName_veiled field)

end Level

namespace Plan

def veiled (plan : Plan) : Plan := ⟨plan.root.veiled, plan.others.map Level.veiled⟩

theorem levels_veiled (plan : Plan) : plan.veiled.levels = plan.levels.map Level.veiled := rfl

@[simp] theorem isJoined_veiled (plan : Plan) : plan.veiled.isJoined = plan.isJoined :=
  congrArg not List.isEmpty_map

end Plan

namespace Resolution

/-- The resolution with types of entities that have no defaults; labels and joins are the same. -/
def veiled (resolution : Resolution) : Resolution :=
  { resolution with plan := resolution.plan.veiled }

theorem length_levels_veiled (resolution : Resolution) :
    resolution.veiled.plan.levels.length = resolution.plan.levels.length :=
  congrArg Nat.succ (List.length_map _)

theorem reserve_veiled (table : String) (resolution : Resolution) :
    resolution.veiled.reserve table =
      ((resolution.reserve table).1, (resolution.reserve table).2.veiled) := by
  rw [reserve, length_levels_veiled]
  rfl

theorem addLevel_veiled (level : Level) (resolution : Resolution) :
    resolution.veiled.addLevel level.veiled = (resolution.addLevel level).veiled := by
  have others : resolution.plan.others.map Level.veiled ++ [level.veiled] =
      (resolution.plan.others ++ [level]).map Level.veiled := by
    rw [List.map_append, List.map_singleton]
  exact congrArg (fun others => (⟨⟨resolution.plan.root.veiled, others⟩, resolution.joins,
    resolution.labels⟩ : Resolution)) others

theorem link_veiled (registry : Registry) (owner target : Level) (association : Association)
    (resolution : Resolution) :
    resolution.veiled.link registry.veiled owner.veiled target.veiled association =
      (resolution.link registry owner target association).map veiled := by
  obtain ⟨name, entity, link⟩ := association
  cases link with
  | belongsToMany through =>
      rw [Resolution.link, Resolution.link]
      dsimp only
      change (registry.veiled.junction owner.schema.name target.schema.name through >>= _) = _
      rw [Registry.junction_veiled]
      refine map_bind fun junction => ?_
      have between (label field : String) :
          (⟨label, junction.schema.veiled, none⟩ : Level).column field =
            (⟨label, junction.schema, none⟩ : Level).column field :=
        Level.column_veiled ⟨label, junction.schema, none⟩ field
      simp only [EntitySchema.table_veiled, reserve_veiled, between, Level.keyColumn_veiled]
      rfl
  | _ =>
      simp only [Resolution.link, Level.column_veiled]
      rfl

mutual

theorem follow_veiled (registry : Registry) (parent : Nat) (owner : Level) :
    (populate : Populate) → (resolution : Resolution) →
      follow registry.veiled parent owner.veiled populate resolution.veiled =
        (follow registry parent owner populate resolution).map veiled
  | .mk name nested, resolution => by
      rw [follow, follow]
      change (associationFor owner.schema name >>= _) = _
      cases associationFor owner.schema name with
      | error fault => rfl
      | ok association =>
          change (registry.veiled.find association.target >>= _) =
            Except.map veiled (registry.find association.target >>= _)
          rw [Registry.find_veiled]
          refine map_bind fun schema => ?_
          rw [EntitySchema.table_veiled, reserve_veiled]
          generalize reserve schema.table resolution = reservation
          obtain ⟨label, reserved⟩ := reservation
          let level : Level := ⟨label, schema, some ⟨parent, association⟩⟩
          change
            (reserved.veiled.link registry.veiled owner.veiled level.veiled association >>= _) =
              Except.map veiled (reserved.link registry owner level association >>= _)
          rw [link_veiled]
          refine map_bind fun linked => ?_
          rw [length_levels_veiled]
          change followAll _ _ level.veiled nested (linked.veiled.addLevel level.veiled) = _
          rw [addLevel_veiled]
          exact followAll_veiled registry _ level nested _

theorem followAll_veiled (registry : Registry) (parent : Nat) (owner : Level) :
    (populates : List Populate) → (resolution : Resolution) →
      followAll registry.veiled parent owner.veiled populates resolution.veiled =
        (followAll registry parent owner populates resolution).map veiled
  | [], _ => rfl
  | populate :: rest, resolution => by
      rw [followAll, followAll, follow_veiled registry parent owner populate resolution]
      exact map_bind fun next => followAll_veiled registry parent owner rest next

end

theorem ofPopulates_veiled (registry : Registry) (root : EntitySchema)
    (populates : List Populate) :
    ofPopulates registry.veiled root.veiled populates =
      (ofPopulates registry root populates).map veiled :=
  followAll_veiled registry 0 (.root root) populates (start root)

@[simp] theorem mapColumn_veiled (resolution : Resolution) :
    resolution.veiled.mapColumn = resolution.mapColumn := by
  funext column
  obtain ⟨_ | table, field⟩ := column
  · simp only [mapColumn, veiled, Plan.isJoined_veiled]
    split
    · exact resolution.plan.root.column_veiled field
    · exact congrArg ColumnRef.bare (resolution.plan.root.schema.storageName_veiled field)
  · have found : (resolution.veiled.plan.levels.find? fun level => level.label = table) =
        (resolution.plan.levels.find? fun level => level.label = table).map Level.veiled := by
      change (resolution.plan.levels.map Level.veiled).find? _ = _
      rw [List.find?_map]
      rfl
    simp only [mapColumn, found]
    cases resolution.plan.levels.find? fun level => level.label = table with
    | none => rfl
    | some level => exact level.column_veiled field

end Resolution

/-- The settings, but without the size of pages. -/
def Config.veiled (config : Config) : Config := { config with pageSize := 0 }

/-- The options with the initial page, whatever page is asked for. -/
def EntityOptions.veiled (options : EntityOptions) : EntityOptions :=
  { options with page := some .initial }

namespace EntityQuery

theorem order_veiled (config : Config) (resolution : Resolution) (entries : List OrderBy) :
    order config.veiled resolution.veiled entries = order config resolution entries := by
  have keys (entries : List OrderBy) : orderByKeys resolution.veiled.plan.levels entries =
      orderByKeys resolution.plan.levels entries := List.foldl_map
  simp only [order, Resolution.mapColumn_veiled, keys]
  simp only [Resolution.veiled, Plan.isJoined_veiled, Config.veiled]

theorem selection_veiled (plan : Plan) : selection plan.veiled = selection plan := by
  have labels : plan.veiled.levels.map (fun level => SelectItem.allOf level.label) =
      plan.levels.map fun level => SelectItem.allOf level.label := by
    rw [Plan.levels_veiled, List.map_map]
    rfl
  rw [selection, selection, Plan.isJoined_veiled, labels]

theorem draft_veiled (config : Config) (resolution : Resolution) (filter : Filter)
    (options : EntityOptions) (single : Bool) :
    draft config.veiled resolution.veiled (Filter.veiled filter) options.veiled single =
      (draft config resolution filter options single).veiled := by
  simp only [draft, Resolution.mapColumn_veiled, order_veiled, Filter.mapColumns_veiled,
    Draft.veiled, FindOptions.veiled]
  simp only [Resolution.veiled, selection_veiled]
  rfl

/-- Queries for entities whose descriptions differ in values come to drafts that do. -/
theorem draft?_veiled (registry : Registry) (config : Config) (entity : String) (filter : Filter)
    (options : EntityOptions) (single : Bool) :
    draft? registry.veiled config.veiled entity (Filter.veiled filter) options.veiled single =
      (draft? registry config entity filter options single).map Draft.veiled := by
  rw [draft?, Registry.find_veiled]
  refine map_bind fun root => ?_
  change (Resolution.ofPopulates registry.veiled root.veiled options.populate >>= _) =
    Except.map Draft.veiled (Resolution.ofPopulates registry root options.populate >>= _)
  rw [Resolution.ofPopulates_veiled]
  exact map_bind fun resolution =>
    congrArg Except.ok (draft_veiled config resolution filter options single)

theorem storageFilter_veiled (schema : EntitySchema) (filter : Filter) :
    storageFilter schema.veiled (Filter.veiled filter) =
      Filter.veiled (storageFilter schema filter) := by
  simp only [storageFilter, EntitySchema.storageName_veiled, Filter.mapColumns_veiled]

end EntityQuery

end EntityMapper
