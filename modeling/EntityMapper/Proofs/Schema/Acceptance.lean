import EntityMapper.Error
import EntityMapper.Proofs.Schema.Registry

set_option autoImplicit false

/-! Which descriptions make up a registry. Each is checked alone before its associations are checked
against the others, which may be described before it or behind it. -/

namespace EntityMapper

open Outcome

/-- The description of a type. -/
def EntitySchema.description (schema : EntitySchema) : EntityDescription :=
  ⟨schema.name, schema.table, schema.columns, schema.associations⟩

/-- Whether the fields that an association names are held by its owner or its target, and its
junction is one of the names. -/
def Association.Fits (association : Association) (owner target names : List String) : Prop :=
  match association.link with
  | .belongsTo foreignKey => foreignKey ∈ owner
  | .hasOne foreignKey => foreignKey ∈ target
  | .hasMany foreignKey => foreignKey ∈ target
  | .belongsToMany junction => junction ∈ names

instance : (association : Association) → (owner target names : List String) →
    Decidable (association.Fits owner target names)
  | ⟨_, _, .belongsTo foreignKey⟩, owner, _, _ => inferInstanceAs (Decidable (foreignKey ∈ owner))
  | ⟨_, _, .hasOne foreignKey⟩, _, target, _ => inferInstanceAs (Decidable (foreignKey ∈ target))
  | ⟨_, _, .hasMany foreignKey⟩, _, target, _ => inferInstanceAs (Decidable (foreignKey ∈ target))
  | ⟨_, _, .belongsToMany junction⟩, _, _, names => inferInstanceAs (Decidable (junction ∈ names))

namespace EntityDescription

variable {description : EntityDescription}

def fields (description : EntityDescription) : List String := description.columns.map Column.field

/-- Descriptions whose names are distinct and of which one column is the key. -/
structure WellFormed (description : EntityDescription) : Prop where
  fields : description.fields.Nodup
  storages : (description.columns.map Column.storage).Nodup
  key : description.columns.countP Column.primaryKey = 1
  associations : (description.associations.map Association.name).Nodup
  apart : ∀ association ∈ description.associations, association.name ∉ description.fields

instance : DecidablePred WellFormed := fun description =>
  decidable_of_iff
    (description.fields.Nodup ∧ (description.columns.map Column.storage).Nodup ∧
      description.columns.countP Column.primaryKey = 1 ∧
      (description.associations.map Association.name).Nodup ∧
      ∀ association ∈ description.associations, association.name ∉ description.fields)
    ⟨fun ⟨fields, storages, key, associations, apart⟩ =>
      ⟨fields, storages, key, associations, apart⟩,
      fun formed => ⟨formed.fields, formed.storages, formed.key, formed.associations, formed.apart⟩⟩

/-- A type is the one that is described, and its key is the column that is flagged. -/
structure Describes (description : EntityDescription) (schema : EntitySchema) : Prop where
  same : schema.description = description
  key : ∀ column ∈ description.columns, column.primaryKey = true ↔ column = schema.primaryKey

theorem checkNames_nil_eq_ok_iff (entity : String) {columns : List Column} :
    checkNames entity [] [] columns = .ok () ↔
      (columns.map Column.field).Nodup ∧ (columns.map Column.storage).Nodup := by
  rw [checkNames_eq_ok_iff, List.pairwise_and_iff]
  unfold List.Nodup
  rw [List.pairwise_map, List.pairwise_map]
  exact and_iff_right fun column _ => ⟨List.not_mem_nil, List.not_mem_nil⟩

theorem checkAssociationNames_eq_ok_iff (entity : String) {taken : List String}
    {associations : List Association} :
    checkAssociationNames entity taken associations = .ok () ↔
      (∀ association ∈ associations, association.name ∉ taken) ∧
        (associations.map Association.name).Nodup := by
  induction associations generalizing taken with
  | nil => exact iff_of_true rfl ⟨List.forall_mem_nil _, List.nodup_nil⟩
  | cons association rest ih =>
      rw [checkAssociationNames, List.forall_mem_cons, List.map_cons, List.nodup_cons]
      by_cases used : association.name ∈ taken
      · rw [if_pos (List.contains_iff_mem.2 used)]
        exact iff_of_false nofun fun apart => apart.1.1 used
      · rw [if_neg (mt List.contains_iff_mem.1 used), ih]
        simp only [List.mem_cons, not_or, List.mem_map]
        grind

theorem findKey_eq_ok {key : { column : Column // column ∈ description.columns }}
    (success : description.findKey = .ok key) :
    description.columns.filter Column.primaryKey = [key.1] := by
  unfold findKey at success
  split at success
  · cases success
  · rename_i found
    obtain rfl := Except.ok.inj success
    exact found
  · cases success

theorem exists_findKey_iff :
    (∃ key, description.findKey = .ok key) ↔
      description.columns.countP Column.primaryKey = 1 := by
  rw [List.countP_eq_length_filter]
  constructor
  · rintro ⟨key, success⟩
    rw [findKey_eq_ok success, List.length_singleton]
  · intro single
    unfold findKey
    split
    · rename_i found
      rw [found] at single
      cases single
    · exact ⟨_, rfl⟩
    · rename_i found
      rw [found] at single
      cases single

/-- A description is accepted alone iff it is well-formed. -/
theorem exists_schema_iff :
    (∃ schema, description.schema = .ok schema) ↔ description.WellFormed := by
  constructor
  · rintro ⟨schema, success⟩
    obtain ⟨⟨⟩, names, success⟩ := bind_eq_ok success
    obtain ⟨key, found, success⟩ := bind_eq_ok success
    obtain ⟨⟨⟩, associations, -⟩ := bind_eq_ok success
    obtain ⟨fields, storages⟩ := (checkNames_nil_eq_ok_iff _).1 names
    obtain ⟨apart, distinct⟩ := (checkAssociationNames_eq_ok_iff _).1 associations
    exact ⟨fields, storages, exists_findKey_iff.1 ⟨key, found⟩, distinct, apart⟩
  · intro formed
    have names := (checkNames_nil_eq_ok_iff description.name).2 ⟨formed.fields, formed.storages⟩
    obtain ⟨key, found⟩ := exists_findKey_iff.2 formed.key
    have associations := (checkAssociationNames_eq_ok_iff description.name).2
      ⟨formed.apart, formed.associations⟩
    rw [fields] at associations
    refine ⟨⟨description.name, description.table, description.columns, description.associations,
      key.1, key.2⟩, ?_⟩
    rw [schema, names, found, associations]
    rfl

/-- The type of a description that is accepted is the one it describes. -/
theorem describes_of_schema {schema : EntitySchema} (success : description.schema = .ok schema) :
    description.Describes schema := by
  obtain ⟨⟨⟩, -, success⟩ := bind_eq_ok success
  obtain ⟨key, found, success⟩ := bind_eq_ok success
  obtain ⟨⟨⟩, -, success⟩ := bind_eq_ok success
  obtain rfl := Except.ok.inj success
  refine ⟨rfl, fun column member => ?_⟩
  have flagged : column ∈ description.columns.filter Column.primaryKey ↔ column = key.1 := by
    rw [findKey_eq_ok found, List.mem_singleton]
  rwa [List.mem_filter, and_iff_right member] at flagged

/-- Descriptions that fit together: each is well-formed, no two have one name, and what an
association names is there. -/
structure Consistent (descriptions : List EntityDescription) : Prop where
  names : (descriptions.map EntityDescription.name).Nodup
  formed : ∀ description ∈ descriptions, description.WellFormed
  associations : ∀ owner ∈ descriptions, ∀ association ∈ owner.associations,
    ∃ target ∈ descriptions, target.name = association.target ∧
      association.Fits owner.fields target.fields (descriptions.map EntityDescription.name)

instance : DecidablePred Consistent := fun descriptions =>
  decidable_of_iff
    ((descriptions.map EntityDescription.name).Nodup ∧
      (∀ description ∈ descriptions, description.WellFormed) ∧
      ∀ owner ∈ descriptions, ∀ association ∈ owner.associations,
        ∃ target ∈ descriptions, target.name = association.target ∧
          association.Fits owner.fields target.fields (descriptions.map EntityDescription.name))
    ⟨fun ⟨names, formed, associations⟩ => ⟨names, formed, associations⟩,
      fun consistent => ⟨consistent.names, consistent.formed, consistent.associations⟩⟩

end EntityDescription

namespace Registry

open EntityDescription

variable {descriptions : List EntityDescription} {registry : Registry}

theorem isSome_column?_iff {schema : EntitySchema} {field : String} :
    (schema.column? field).isSome = true ↔ field ∈ schema.description.fields := by
  rw [EntitySchema.column?, List.find?_isSome, fields, List.mem_map]
  simp only [decide_eq_true_eq]
  rfl

theorem checkForeignKey_eq_ok_iff {holder : EntitySchema} {association : Association}
    {foreignKey : String} :
    checkForeignKey holder association foreignKey = .ok () ↔
      foreignKey ∈ holder.description.fields := by
  rw [checkForeignKey, ← isSome_column?_iff]
  split
  · rename_i held
    exact iff_of_true rfl held
  · rename_i missing
    exact iff_of_false nofun missing

/-- An association is accepted iff its target is there and it fits. -/
theorem checkAssociation_eq_ok_iff {names : List String}
    (named : ∀ name, (registry.get? name).isSome = true ↔ name ∈ names) {owner : EntitySchema}
    {association : Association} :
    registry.checkAssociation owner association = .ok () ↔
      ∃ target, registry.get? association.target = some target ∧
        association.Fits owner.description.fields target.description.fields names := by
  unfold checkAssociation
  cases registry.get? association.target with
  | none => exact iff_of_false nofun fun ⟨_, found, _⟩ => nomatch found
  | some target =>
      have only : (∃ other, some target = some other ∧
          association.Fits owner.description.fields other.description.fields names) ↔
            association.Fits owner.description.fields target.description.fields names := by
        constructor
        · rintro ⟨_, ⟨⟩, fits⟩
          exact fits
        · exact fun fits => ⟨target, rfl, fits⟩
      rw [only, Association.Fits]
      cases association.link with
      | belongsTo foreignKey => exact checkForeignKey_eq_ok_iff
      | hasOne foreignKey => exact checkForeignKey_eq_ok_iff
      | hasMany foreignKey => exact checkForeignKey_eq_ok_iff
      | belongsToMany junction =>
          dsimp only
          rw [← named junction]
          split
          · rename_i there
            exact iff_of_true rfl there
          · rename_i missing
            exact iff_of_false nofun missing

theorem exists_of_mem_toList {schema : EntitySchema} (member : schema ∈ registry.toList) :
    ∃ name, registry.get? name = some schema := by
  obtain ⟨⟨name, _⟩, listed, rfl⟩ := List.mem_map.1 member
  exact ⟨name, Entries.get?_of_mem registry.schemas.sorted listed⟩

/-- Well-formed descriptions with new names are registered one after the other. -/
theorem exists_registerAll (before : Registry)
    (names : (descriptions.map EntityDescription.name).Nodup)
    (new : ∀ description ∈ descriptions, before.get? description.name = none)
    (formed : ∀ description ∈ descriptions, description.WellFormed) :
    ∃ result, descriptions.foldlM register before = .ok result := by
  induction descriptions generalizing before with
  | nil => exact ⟨before, rfl⟩
  | cons description rest ih =>
      obtain ⟨absent, apart⟩ := List.nodup_cons.1 names
      obtain ⟨schema, accepted⟩ := exists_schema_iff.2 (formed description List.mem_cons_self)
      have here := register_eq_ok_iff.2
        ⟨schema, accepted, new description List.mem_cons_self, rfl⟩
      rw [List.foldlM_cons, here]
      refine ih _ apart (fun later member => ?_) fun later member =>
        formed later (List.mem_cons_of_mem _ member)
      have other : later.name ≠ description.name :=
        fun same => absent (same ▸ List.mem_map_of_mem member)
      exact (Keyed.get?_insert_of_ne _ _ other).trans (new later (List.mem_cons_of_mem _ member))

/-- The names of the types that are found. -/
theorem isSome_registerAll (registered : descriptions.foldlM register ⟨Keyed.empty⟩ = .ok registry)
    (name : String) :
    (registry.get? name).isSome = true ↔ name ∈ descriptions.map EntityDescription.name := by
  obtain ⟨-, each, others⟩ := registerAll_eq_ok registered
  rw [List.mem_map]
  constructor
  · intro there
    obtain ⟨schema, found⟩ := Option.isSome_iff_exists.1 there
    obtain ⟨description, member, named, -⟩ := (get?_registerAll registered).1 found
    exact ⟨description, member, named⟩
  · rintro ⟨description, member, rfl⟩
    obtain ⟨-, schema, -, found⟩ := each description member
    exact Option.isSome_iff_exists.2 ⟨schema, found⟩

/-- The associations of registered types are accepted iff those of the descriptions fit. -/
theorem checks_registerAll
    (registered : descriptions.foldlM register ⟨Keyed.empty⟩ = .ok registry) :
    (∀ schema ∈ registry.toList, ∀ association ∈ schema.associations,
        registry.checkAssociation schema association = .ok ()) ↔
      ∀ owner ∈ descriptions, ∀ association ∈ owner.associations,
        ∃ target ∈ descriptions, target.name = association.target ∧
          association.Fits owner.fields target.fields
            (descriptions.map EntityDescription.name) := by
  have named := isSome_registerAll registered
  obtain ⟨-, each, -⟩ := registerAll_eq_ok registered
  constructor
  · intro accepted owner member association listed
    obtain ⟨-, schema, made, found⟩ := each owner member
    have described := (describes_of_schema made).same
    rw [← described] at listed
    obtain ⟨target, leads, fits⟩ := (checkAssociation_eq_ok_iff named).1
      (accepted schema (mem_toList found) association listed)
    obtain ⟨other, there, same, success⟩ := (get?_registerAll registered).1 leads
    rw [described, (describes_of_schema success).same] at fits
    exact ⟨other, there, same, fits⟩
  · intro fitting schema member association listed
    obtain ⟨name, found⟩ := exists_of_mem_toList member
    obtain ⟨owner, there, -, made⟩ := (get?_registerAll registered).1 found
    have described := (describes_of_schema made).same
    have inOwner : association ∈ owner.associations := by
      rw [← described]
      exact listed
    obtain ⟨target, other, same, fits⟩ := fitting owner there association inOwner
    obtain ⟨-, type, success, leads⟩ := each target other
    rw [← described, ← (describes_of_schema success).same] at fits
    exact (checkAssociation_eq_ok_iff named).2 ⟨type, same ▸ leads, fits⟩

/-- A registry is made of its descriptions iff all are registered and their associations are
accepted. -/
theorem ofDescriptions_eq_ok_iff :
    ofDescriptions descriptions = .ok registry ↔
      descriptions.foldlM register ⟨Keyed.empty⟩ = .ok registry ∧
        ∀ schema ∈ registry.toList, ∀ association ∈ schema.associations,
          registry.checkAssociation schema association = .ok () := by
  constructor
  · intro built
    obtain ⟨result, registered, built⟩ := bind_eq_ok built
    obtain ⟨⟨⟩, checks, built⟩ := bind_eq_ok built
    obtain rfl := Except.ok.inj built
    exact ⟨registered, fun schema member =>
      forM_eq_ok_iff.1 (forM_eq_ok_iff.1 checks schema member)⟩
  · rintro ⟨registered, accepted⟩
    have checks := forM_eq_ok_iff.2 fun schema member =>
      forM_eq_ok_iff.2 (accepted schema member)
    rw [ofDescriptions, registered]
    change (registry.toList.forM _ >>= fun _ => Except.ok registry) = _
    rw [checks]
    rfl

/-- Exactly consistent descriptions make up a registry. It has the types described, each with the
column that is flagged as its key, and no others; otherwise the error is one of definition. -/
theorem built_iff_consistent (descriptions : List EntityDescription) :
    ((∃ registry, ofDescriptions descriptions = .ok registry) ↔ Consistent descriptions) ∧
      (∀ registry, ofDescriptions descriptions = .ok registry →
        (∀ description ∈ descriptions, ∃ schema,
          registry.find description.name = .ok schema ∧ description.Describes schema) ∧
        ∀ name ∉ descriptions.map EntityDescription.name, registry.get? name = none) ∧
      ∀ error, (liftM (ofDescriptions descriptions) : Result Registry) = .error error →
        error.isDefinition = true := by
  refine ⟨⟨?_, fun consistent => ?_⟩, fun registry built => ?_, fun error failed => ?_⟩
  · rintro ⟨registry, built⟩
    obtain ⟨registered, accepted⟩ := ofDescriptions_eq_ok_iff.1 built
    obtain ⟨names, each, -⟩ := registerAll_eq_ok registered
    refine ⟨names, fun description member => ?_, (checks_registerAll registered).1 accepted⟩
    obtain ⟨-, schema, made, -⟩ := each description member
    exact exists_schema_iff.1 ⟨schema, made⟩
  · obtain ⟨registry, registered⟩ := exists_registerAll ⟨Keyed.empty⟩ consistent.names
      (fun _ _ => rfl) consistent.formed
    exact ⟨registry, ofDescriptions_eq_ok_iff.2
      ⟨registered, (checks_registerAll registered).2 consistent.associations⟩⟩
  · obtain ⟨-, each, others⟩ := registerAll_eq_ok (ofDescriptions_eq_ok_iff.1 built).1
    refine ⟨fun description member => ?_, others⟩
    obtain ⟨-, schema, made, found⟩ := each description member
    refine ⟨schema, ?_, describes_of_schema made⟩
    rw [find, found]
    rfl
  · cases built : ofDescriptions descriptions with
    | ok registry =>
        rw [built] at failed
        cases failed
    | error fault =>
        rw [built] at failed
        obtain rfl := Except.error.inj failed
        rfl

/-- Users and their groups through memberships that are described last, and a membership without the
field that a user asks for. -/
theorem built_iff_consistent_groups :
    let key : Column := { Column.plain "id" .int with primaryKey := true }
    let user : EntityDescription := ⟨"User", "users", [.plain "name" .varchar, key],
      [⟨"groups", "Group", .belongsToMany "Membership"⟩,
        ⟨"first", "Membership", .hasOne "userId"⟩]⟩
    let group : EntityDescription := ⟨"Group", "groups", [key],
      [⟨"memberships", "Membership", .hasMany "groupId"⟩]⟩
    let membership : EntityDescription := ⟨"Membership", "memberships",
      [key, .plain "userId" .int, .plain "groupId" .int],
      [⟨"user", "User", .belongsTo "userId"⟩, ⟨"group", "Group", .belongsTo "groupId"⟩]⟩
    let loose : EntityDescription := { membership with
      columns := [key, .plain "groupId" .int], associations := [] }
    Consistent [user, group, membership] ∧
      (∃ registry schema, ofDescriptions [user, group, membership] = .ok registry ∧
        registry.find "User" = .ok schema ∧ user.Describes schema ∧ schema.primaryKey = key ∧
        registry.get? "Role" = none) ∧
      ¬ Consistent [user, group, loose] ∧
      ∃ error, (liftM (ofDescriptions [user, group, loose]) : Result Registry) = .error error ∧
        error.isDefinition = true := by
  intro key user group membership loose
  have consistent : Consistent [user, group, membership] := by decide
  have inconsistent : ¬ Consistent [user, group, loose] := by decide
  obtain ⟨accepts, described, -⟩ := built_iff_consistent [user, group, membership]
  obtain ⟨refuses, -, failed⟩ := built_iff_consistent [user, group, loose]
  obtain ⟨registry, built⟩ := accepts.2 consistent
  obtain ⟨types, others⟩ := described registry built
  obtain ⟨schema, found, same⟩ := types user List.mem_cons_self
  have flagged : key = schema.primaryKey :=
    (same.key key (List.mem_cons_of_mem _ List.mem_cons_self)).1 rfl
  refine ⟨consistent,
    ⟨registry, schema, built, found, same, flagged.symm, others "Role" (by decide)⟩,
    inconsistent, ?_⟩
  cases refused : ofDescriptions [user, group, loose] with
  | ok other => exact absurd (refuses.1 ⟨other, refused⟩) inconsistent
  | error fault =>
      rw [refused] at failed
      exact ⟨_, rfl, failed _ rfl⟩

end Registry

end EntityMapper
