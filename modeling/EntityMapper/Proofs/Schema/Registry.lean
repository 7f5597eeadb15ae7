import EntityMapper.Proofs.Store.Population
import EntityMapper.Proofs.Keyed
import EntityMapper.Proofs.Outcome

set_option autoImplicit false

/-! What a registry that is accepted promises about its types. -/

namespace EntityMapper

open Outcome

/-- The fields of a type have different names. -/
def EntitySchema.DistinctFields (schema : EntitySchema) : Prop :=
  schema.columns.Pairwise fun left right => left.field ≠ right.field

/-- The columns of a type are stored under different names. -/
def EntitySchema.DistinctStorages (schema : EntitySchema) : Prop :=
  schema.columns.Pairwise fun left right => left.storage ≠ right.storage

/-- Of two columns that are stored under one name there is only one. -/
theorem EntitySchema.DistinctStorages.eq_of_storage {schema : EntitySchema}
    (distinct : schema.DistinctStorages) {left right : Column} (inLeft : left ∈ schema.columns)
    (inRight : right ∈ schema.columns) (same : left.storage = right.storage) : left = right := by
  have symmetric : Std.Symm fun left right : Column => left.storage ≠ right.storage :=
    ⟨fun _ _ => Ne.symm⟩
  by_contra different
  exact distinct.forall inLeft inRight different same

namespace EntityDescription

/-- Names are accepted iff none of them is taken and no two are the same. -/
theorem checkNames_eq_ok_iff {entity : String} {fields storages : List String}
    {columns : List Column} :
    checkNames entity fields storages columns = .ok () ↔
      (∀ column ∈ columns, column.field ∉ fields ∧ column.storage ∉ storages) ∧
        columns.Pairwise fun left right =>
          left.field ≠ right.field ∧ left.storage ≠ right.storage := by
  induction columns generalizing fields storages with
  | nil => exact iff_of_true rfl ⟨List.forall_mem_nil _, List.Pairwise.nil⟩
  | cons column rest ih =>
      rw [checkNames, List.forall_mem_cons, List.pairwise_cons]
      by_cases taken : column.field ∈ fields
      · rw [if_pos (List.contains_iff_mem.2 taken)]
        exact iff_of_false nofun fun apart => apart.1.1.1 taken
      · by_cases stored : column.storage ∈ storages
        · rw [if_neg (mt List.contains_iff_mem.1 taken), if_pos (List.contains_iff_mem.2 stored)]
          exact iff_of_false nofun fun apart => apart.1.1.2 stored
        · rw [if_neg (mt List.contains_iff_mem.1 taken), if_neg (mt List.contains_iff_mem.1 stored),
            ih]
          simp only [List.mem_cons, not_or]
          grind

theorem schema_eq_ok {description : EntityDescription} {schema : EntitySchema}
    (success : description.schema = .ok schema) :
    schema.name = description.name ∧ schema.DistinctFields ∧ schema.DistinctStorages := by
  obtain ⟨⟨⟩, names, success⟩ := bind_eq_ok success
  obtain ⟨key, -, success⟩ := bind_eq_ok success
  obtain ⟨⟨⟩, -, success⟩ := bind_eq_ok success
  obtain rfl := Except.ok.inj success
  have distinct := (checkNames_eq_ok_iff.1 names).2
  exact ⟨rfl, distinct.imp And.left, distinct.imp And.right⟩

end EntityDescription

namespace Registry

/-- Types are found under their own names, and their fields have different names. -/
def Regular (registry : Registry) : Prop :=
  ∀ (name : String) (schema : EntitySchema), registry.get? name = some schema →
    schema.name = name ∧ schema.DistinctFields

theorem find_eq_ok {registry : Registry} {entity : String} {schema : EntitySchema}
    (success : registry.find entity = .ok schema) : registry.get? entity = some schema := by
  unfold find at success
  cases found : registry.get? entity with
  | none =>
      rw [found] at success
      cases success
  | some other =>
      rw [found] at success
      exact congrArg some (Except.ok.inj success)

/-- A description is registered iff it is accepted alone and its name is new. -/
theorem register_eq_ok_iff {registry next : Registry} {description : EntityDescription} :
    registry.register description = .ok next ↔
      ∃ schema, description.schema = .ok schema ∧ registry.get? description.name = none ∧
        next = ⟨registry.schemas.insert description.name schema⟩ := by
  rw [register]
  cases description.schema with
  | error fault => exact iff_of_false nofun fun ⟨_, accepted, _⟩ => nomatch accepted
  | ok schema =>
      change (if registry.schemas.contains description.name = true then _ else _) = _ ↔ _
      have taken : registry.schemas.contains description.name = true ↔
          registry.get? description.name ≠ none := Option.isSome_iff_ne_none
      split
      · rename_i present
        exact iff_of_false nofun fun ⟨_, _, missing, _⟩ => taken.1 present missing
      · rename_i absent
        constructor
        · intro registered
          obtain rfl := Except.ok.inj registered
          exact ⟨schema, rfl, not_not.1 (mt taken.2 absent), rfl⟩
        · rintro ⟨_, accepted, -, rfl⟩
          obtain rfl := Except.ok.inj accepted
          rfl

/-- All that is registered is accepted alone and found under a name of its own; other names stand
for what they stood for. -/
theorem registerAll_eq_ok {descriptions : List EntityDescription} {before result : Registry}
    (registered : descriptions.foldlM register before = .ok result) :
    (descriptions.map EntityDescription.name).Nodup ∧
      (∀ description ∈ descriptions, before.get? description.name = none ∧
        ∃ schema, description.schema = .ok schema ∧
          result.get? description.name = some schema) ∧
      ∀ name ∉ descriptions.map EntityDescription.name, result.get? name = before.get? name := by
  induction descriptions generalizing before with
  | nil =>
      obtain rfl := Except.ok.inj registered
      exact ⟨List.nodup_nil, List.forall_mem_nil _, fun _ _ => rfl⟩
  | cons description rest ih =>
      rw [List.foldlM_cons] at registered
      obtain ⟨next, here, following⟩ := bind_eq_ok registered
      obtain ⟨schema, accepted, missing, rfl⟩ := register_eq_ok_iff.1 here
      obtain ⟨apart, each, others⟩ := ih following
      have kept {name : String} (other : name ≠ description.name) :
          get? ⟨before.schemas.insert description.name schema⟩ name = before.get? name :=
        Keyed.get?_insert_of_ne _ _ other
      have put : get? ⟨before.schemas.insert description.name schema⟩ description.name =
          some schema := Keyed.get?_insert_self _ _ _
      have new : description.name ∉ rest.map EntityDescription.name := by
        intro again
        obtain ⟨later, member, same⟩ := List.mem_map.1 again
        have free := (each later member).1
        rw [same, put] at free
        cases free
      refine ⟨List.nodup_cons.2 ⟨new, apart⟩,
        List.forall_mem_cons.2 ⟨⟨missing, schema, accepted, ?_⟩,
          fun later member => ⟨?_, (each later member).2⟩⟩, fun name absent => ?_⟩
      · rw [others _ new, put]
      · rw [← kept fun same => new (same ▸ List.mem_map_of_mem member)]
        exact (each later member).1
      · rw [List.map_cons, List.mem_cons, not_or] at absent
        rw [others name absent.2, kept absent.1]

/-- The types that are found are those of the descriptions, under their names. -/
theorem get?_registerAll {descriptions : List EntityDescription} {registry : Registry}
    (registered : descriptions.foldlM register ⟨Keyed.empty⟩ = .ok registry) {name : String}
    {schema : EntitySchema} :
    registry.get? name = some schema ↔
      ∃ description ∈ descriptions, description.name = name ∧ description.schema = .ok schema := by
  obtain ⟨-, each, others⟩ := registerAll_eq_ok registered
  constructor
  · intro found
    by_cases named : name ∈ descriptions.map EntityDescription.name
    · obtain ⟨description, member, rfl⟩ := List.mem_map.1 named
      obtain ⟨-, other, accepted, held⟩ := each description member
      rw [found] at held
      obtain rfl := Option.some.inj held
      exact ⟨description, member, rfl, accepted⟩
    · rw [others name named] at found
      cases found
  · rintro ⟨description, member, rfl, accepted⟩
    obtain ⟨-, other, same, held⟩ := each description member
    rw [accepted] at same
    obtain rfl := Except.ok.inj same
    exact held

/-- A type that is found under a name is registered by a description of this name. -/
theorem exists_description {descriptions : List EntityDescription} {registry : Registry}
    (built : ofDescriptions descriptions = .ok registry) {name : String} {schema : EntitySchema}
    (found : registry.get? name = some schema) :
    ∃ description ∈ descriptions, description.name = name ∧ description.schema = .ok schema := by
  obtain ⟨result, registered, built⟩ := bind_eq_ok built
  obtain ⟨⟨⟩, -, built⟩ := bind_eq_ok built
  obtain rfl := Except.ok.inj built
  exact (get?_registerAll registered).1 found

theorem regular_ofDescriptions {descriptions : List EntityDescription} {registry : Registry}
    (built : ofDescriptions descriptions = .ok registry) : registry.Regular := by
  intro name schema found
  obtain ⟨description, -, rfl, success⟩ := exists_description built found
  obtain ⟨named, distinct, -⟩ := EntityDescription.schema_eq_ok success
  exact ⟨named, distinct⟩

theorem distinctStorages_ofDescriptions {descriptions : List EntityDescription}
    {registry : Registry} (built : ofDescriptions descriptions = .ok registry) {name : String}
    {schema : EntitySchema} (found : registry.get? name = some schema) :
    schema.DistinctStorages := by
  obtain ⟨description, -, -, success⟩ := exists_description built found
  exact (EntityDescription.schema_eq_ok success).2.2

/-- What the associations of all types name is there. -/
def Checked (registry : Registry) : Prop :=
  ∀ (name : String) (schema : EntitySchema), registry.get? name = some schema →
    ∀ association ∈ schema.associations, registry.checkAssociation schema association = .ok ()

theorem mem_toList {registry : Registry} {name : String} {schema : EntitySchema}
    (found : registry.get? name = some schema) : schema ∈ registry.toList :=
  List.mem_map.2 ⟨(name, schema), Entries.mem_of_get? found, rfl⟩

theorem checked_ofDescriptions {descriptions : List EntityDescription} {registry : Registry}
    (built : ofDescriptions descriptions = .ok registry) : registry.Checked := by
  obtain ⟨result, -, built⟩ := bind_eq_ok built
  obtain ⟨⟨⟩, checks, built⟩ := bind_eq_ok built
  obtain rfl := Except.ok.inj built
  intro name schema found
  exact forM_eq_ok_iff.1 (forM_eq_ok_iff.1 checks schema (mem_toList found))

/-- A foreign key that is accepted is stored in a column of its holder. -/
theorem storageName_of_checkForeignKey {holder : EntitySchema} {association : Association}
    {foreignKey : String} (success : checkForeignKey holder association foreignKey = .ok ()) :
    ∃ column ∈ holder.columns, holder.storageName foreignKey = column.storage := by
  unfold checkForeignKey at success
  cases found : holder.column? foreignKey with
  | none =>
      rw [found] at success
      cases success
  | some column =>
      refine ⟨column, List.mem_of_find?_eq_some found, ?_⟩
      rw [EntitySchema.storageName, found]
      rfl

namespace Checked

variable {registry : Registry} {name : String} {schema : EntitySchema}

/-- The key by which an entity belongs to another one is stored in a column. -/
theorem belongsTo (checked : registry.Checked) (found : registry.get? name = some schema)
    {entity key : String} (belongs : schema.BelongsTo entity key) :
    ∃ column ∈ schema.columns, schema.storageName key = column.storage := by
  obtain ⟨association, member, -, stored⟩ := belongs
  have success := checked name schema found association member
  rw [checkAssociation, stored] at success
  cases target : registry.get? association.target with
  | none =>
      rw [target] at success
      cases success
  | some other =>
      rw [target] at success
      exact storageName_of_checkForeignKey success

/-- The key by which the targets of an association refer to their owner is stored in a column of
theirs. -/
theorem refersBack (checked : registry.Checked) (found : registry.get? name = some schema)
    {association : Association} (member : association ∈ schema.associations)
    {target : EntitySchema} (leads : registry.get? association.target = some target) {key : String}
    (stored : association.link = .hasOne key ∨ association.link = .hasMany key) :
    ∃ column ∈ target.columns, target.storageName key = column.storage := by
  have success := checked name schema found association member
  rw [checkAssociation, leads] at success
  rcases stored with one | many
  · rw [one] at success
    exact storageName_of_checkForeignKey success
  · rw [many] at success
    exact storageName_of_checkForeignKey success

end Checked

theorem mem_keysTo {junction : EntitySchema} {entity key : String} :
    key ∈ keysTo junction entity ↔ junction.BelongsTo entity key := by
  unfold keysTo EntitySchema.BelongsTo
  rw [List.mem_filterMap]
  constructor
  · rintro ⟨association, member, chosen⟩
    split at chosen
    · rename_i other stored
      split at chosen
      · rename_i leads
        obtain rfl := Option.some.inj chosen
        exact ⟨association, member, leads, stored⟩
      · cases chosen
    · cases chosen
  · rintro ⟨association, member, leads, stored⟩
    refine ⟨association, member, ?_⟩
    rw [stored]
    exact if_pos leads

/-- The key of a junction towards a side is the one by which it belongs to it. -/
theorem junctionKey_eq_ok {junction : EntitySchema} {name entity key : String}
    (success : junctionKey junction name entity = .ok key) (other : String) :
    junction.BelongsTo entity other ↔ other = key := by
  unfold junctionKey at success
  rw [← mem_keysTo]
  split at success
  · rename_i only listed
    obtain rfl := Except.ok.inj success
    rw [listed, List.mem_singleton]
  · cases success
  · cases success

theorem junction_eq_ok {registry : Registry} {owner target through : String} {junction : Junction}
    (success : registry.junction owner target through = .ok junction) :
    registry.get? through = some junction.schema ∧
      (∀ key, junction.schema.BelongsTo owner key ↔ key = junction.ownerKey) ∧
      ∀ key, junction.schema.BelongsTo target key ↔ key = junction.targetKey := by
  obtain ⟨schema, found, success⟩ := bind_eq_ok success
  obtain ⟨ownerKey, toOwner, success⟩ := bind_eq_ok success
  obtain ⟨targetKey, toTarget, success⟩ := bind_eq_ok success
  obtain rfl := Except.ok.inj success
  exact ⟨find_eq_ok found, junctionKey_eq_ok toOwner, junctionKey_eq_ok toTarget⟩

end Registry

end EntityMapper
