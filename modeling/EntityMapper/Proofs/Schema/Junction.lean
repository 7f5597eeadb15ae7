import EntityMapper.Plan.EntityQuery
import EntityMapper.Proofs.Schema.Registry

set_option autoImplicit false

/-! The keys by which a junction belongs to the sides of an association to many. Each side is looked
for by itself, so that an entity that is associated with itself is found twice by one key. -/

namespace EntityMapper

open Outcome

/-- The field that refers to an entity, if the association is one by which its owner belongs to
it. -/
def Association.keyTo? (association : Association) (entity : String) : Option String :=
  match association.link with
  | .belongsTo key => if association.target = entity then some key else none
  | _ => none

theorem Association.keyTo?_eq_some_iff {association : Association} {entity key : String} :
    association.keyTo? entity = some key ↔
      association.target = entity ∧ association.link = .belongsTo key := by
  obtain ⟨name, target, link⟩ := association
  cases link with
  | belongsTo other =>
      by_cases leads : target = entity <;> simp [keyTo?, leads]
  | _ => simp [keyTo?]

/-- The associations by which an entity belongs to another, in the order of their declaration. -/
def EntitySchema.belongings (schema : EntitySchema) (entity : String) : List Association :=
  schema.associations.filter fun association => (association.keyTo? entity).isSome

theorem mem_belongings {schema : EntitySchema} {entity : String} {association : Association} :
    association ∈ schema.belongings entity ↔ association ∈ schema.associations ∧
      association.target = entity ∧ ∃ key, association.link = .belongsTo key := by
  rw [EntitySchema.belongings, List.mem_filter, Option.isSome_iff_exists]
  simp only [Association.keyTo?_eq_some_iff, exists_and_left]

namespace Registry

theorem map_keyTo?_belongings (schema : EntitySchema) (entity : String) :
    (schema.belongings entity).map (fun association => association.keyTo? entity) =
      (keysTo schema entity).map some := by
  have keys : keysTo schema entity =
      schema.associations.filterMap fun association => association.keyTo? entity := rfl
  rw [keys, EntitySchema.belongings]
  induction schema.associations with
  | nil => rfl
  | cons association rest ih =>
      cases key : association.keyTo? entity <;> simp [key, ih]

/-- The key towards a side is found iff there is exactly one association by which the junction
belongs to it, and then it is the key of this one. -/
theorem junctionKey_eq_ok_iff {schema : EntitySchema} {name entity key : String} :
    junctionKey schema name entity = .ok key ↔
      ∃ association, schema.belongings entity = [association] ∧
        association.link = .belongsTo key := by
  have keys := map_keyTo?_belongings schema entity
  have only : junctionKey schema name entity = .ok key ↔ keysTo schema entity = [key] := by
    unfold junctionKey
    split <;> simp_all
  rw [only]
  constructor
  · intro single
    rw [single, List.map_singleton, List.map_eq_singleton_iff] at keys
    obtain ⟨association, listed, leads⟩ := keys
    exact ⟨association, listed, (Association.keyTo?_eq_some_iff.1 leads).2⟩
  · rintro ⟨association, listed, stored⟩
    have member := mem_belongings.1 (listed ▸ List.mem_singleton_self association)
    have leads := Association.keyTo?_eq_some_iff.2 ⟨member.2.1, stored⟩
    rw [listed, List.map_singleton, leads] at keys
    exact List.map_injective_iff.2 (fun _ _ => Option.some.inj) keys.symm

theorem exists_junctionKey_iff (name : String) {schema : EntitySchema} {entity : String} :
    (∃ key, junctionKey schema name entity = .ok key) ↔
      (schema.belongings entity).length = 1 := by
  simp only [junctionKey_eq_ok_iff, List.length_eq_one_iff]
  constructor
  · rintro ⟨key, association, listed, -⟩
    exact ⟨association, listed⟩
  · rintro ⟨association, listed⟩
    obtain ⟨-, -, key, stored⟩ := mem_belongings.1 (listed ▸ List.mem_singleton_self association)
    exact ⟨key, association, listed, stored⟩

/-- A junction is found iff it is registered and its key towards each side is. -/
theorem junction_eq_ok_iff {registry : Registry} {owner target through : String}
    {junction : Junction} :
    registry.junction owner target through = .ok junction ↔
      registry.get? through = some junction.schema ∧
        junctionKey junction.schema through owner = .ok junction.ownerKey ∧
        junctionKey junction.schema through target = .ok junction.targetKey := by
  constructor
  · intro success
    obtain ⟨schema, found, success⟩ := bind_eq_ok success
    obtain ⟨ownerKey, toOwner, success⟩ := bind_eq_ok success
    obtain ⟨targetKey, toTarget, success⟩ := bind_eq_ok success
    obtain rfl := Except.ok.inj success
    exact ⟨find_eq_ok found, toOwner, toTarget⟩
  · rintro ⟨found, toOwner, toTarget⟩
    have steps : registry.junction owner target through =
        (junctionKey junction.schema through owner >>= fun ownerKey =>
          junctionKey junction.schema through target >>= fun targetKey =>
            .ok ⟨junction.schema, ownerKey, targetKey⟩) := by
      rw [Registry.junction, find, found]
      rfl
    rw [steps, toOwner, toTarget]
    rfl

/-- The key by which a registered entity belongs to another is one of its fields. -/
theorem Checked.isSome_column? {registry : Registry} (checked : registry.Checked) {name : String}
    {schema : EntitySchema} (found : registry.get? name = some schema) {association : Association}
    (member : association ∈ schema.associations) {key : String}
    (stored : association.link = .belongsTo key) : (schema.column? key).isSome = true := by
  have success := checked name schema found association member
  rw [checkAssociation, stored] at success
  cases leads : registry.get? association.target with
  | none =>
      rw [leads] at success
      cases success
  | some target =>
      rw [leads] at success
      change checkForeignKey schema association key = .ok () at success
      by_contra missing
      rw [checkForeignKey, if_neg missing] at success
      cases success

/-- The junction that a registered association names is registered. -/
theorem Checked.isSome_junction {registry : Registry} (checked : registry.Checked) {name : String}
    {owner : EntitySchema} (found : registry.get? name = some owner) {association : Association}
    (member : association ∈ owner.associations) {through : String}
    (link : association.link = .belongsToMany through) :
    (registry.get? through).isSome = true := by
  have success := checked name owner found association member
  rw [checkAssociation, link] at success
  by_contra missing
  split at success
  · cases success
  · simp [missing] at success

/-- The junction of an association to many is found iff it belongs to each side by exactly one
association. Their keys are fields of the junction. They are two associations where the sides are
two entities; an entity that is associated with itself has one key for both sides. -/
theorem junction_sides {descriptions : List EntityDescription} {registry : Registry}
    (built : ofDescriptions descriptions = .ok registry) {name : String} {owner : EntitySchema}
    (found : registry.get? name = some owner) {association : Association}
    (member : association ∈ owner.associations) {through : String}
    (link : association.link = .belongsToMany through) :
    ∃ between, registry.get? through = some between ∧
      ((∃ junction, registry.junction owner.name association.target through = .ok junction) ↔
        (between.belongings owner.name).length = 1 ∧
          (between.belongings association.target).length = 1) ∧
      ∀ junction, registry.junction owner.name association.target through = .ok junction →
        junction.schema = between ∧
        ∃ toOwner toTarget, between.belongings owner.name = [toOwner] ∧
          between.belongings association.target = [toTarget] ∧
          toOwner.link = .belongsTo junction.ownerKey ∧
          toTarget.link = .belongsTo junction.targetKey ∧
          (between.column? junction.ownerKey).isSome = true ∧
          (between.column? junction.targetKey).isSome = true ∧
          (toOwner ≠ toTarget ↔ owner.name ≠ association.target) ∧
          (owner.name = association.target → junction.ownerKey = junction.targetKey) := by
  have checked := checked_ofDescriptions built
  obtain ⟨between, registered⟩ :=
    Option.isSome_iff_exists.1 (checked.isSome_junction found member link)
  refine ⟨between, registered, ?_, fun junction success => ?_⟩
  · rw [← exists_junctionKey_iff through, ← exists_junctionKey_iff through]
    constructor
    · rintro ⟨junction, success⟩
      obtain ⟨there, toOwner, toTarget⟩ := junction_eq_ok_iff.1 success
      obtain rfl := Option.some.inj (registered.symm.trans there)
      exact ⟨⟨_, toOwner⟩, ⟨_, toTarget⟩⟩
    · rintro ⟨⟨ownerKey, toOwner⟩, ⟨targetKey, toTarget⟩⟩
      exact ⟨⟨between, ownerKey, targetKey⟩,
        junction_eq_ok_iff.2 ⟨registered, toOwner, toTarget⟩⟩
  · obtain ⟨there, ownerSide, targetSide⟩ := junction_eq_ok_iff.1 success
    obtain rfl := Option.some.inj (registered.symm.trans there)
    obtain ⟨toOwner, owners, ownerLink⟩ := junctionKey_eq_ok_iff.1 ownerSide
    obtain ⟨toTarget, targets, targetLink⟩ := junctionKey_eq_ok_iff.1 targetSide
    have fromOwner := mem_belongings.1 (owners ▸ List.mem_singleton_self toOwner)
    have fromTarget := mem_belongings.1 (targets ▸ List.mem_singleton_self toTarget)
    have same (alike : owner.name = association.target) : toOwner = toTarget := by
      rw [alike, targets] at owners
      exact (List.singleton_inj.1 owners).symm
    refine ⟨rfl, toOwner, toTarget, owners, targets, ownerLink, targetLink,
      checked.isSome_column? registered fromOwner.1 ownerLink,
      checked.isSome_column? registered fromTarget.1 targetLink, ?_, fun alike => ?_⟩
    · refine not_congr ⟨?_, same⟩
      rintro rfl
      exact fromOwner.2.1.symm.trans fromTarget.2.1
    · rw [same alike, targetLink, Link.belongsTo.injEq] at ownerLink
      exact ownerLink.symm

end Registry

namespace Troupe

private def key : Column := { Column.plain "id" .int with primaryKey := true }

/-- Entities with a key and further numbers. -/
def schema (name table : String) (numbers : List String) (associations : List Association) :
    EntitySchema :=
  ⟨name, table, key :: numbers.map (Column.plain · .int), associations, key, List.mem_cons_self⟩

def description (schema : EntitySchema) : EntityDescription :=
  ⟨schema.name, schema.table, schema.columns, schema.associations⟩

def actor : EntitySchema :=
  schema "Actor" "actors" [] [⟨"movies", "Movie", .belongsToMany "Part"⟩]

def movie : EntitySchema := schema "Movie" "movies" [] []

/-- A part in a movie, which may be taken over from another part. -/
def part : EntitySchema := schema "Part" "parts" ["actorId", "movieId", "formerId"]
  [⟨"former", "Part", .belongsTo "formerId"⟩, ⟨"movie", "Movie", .belongsTo "movieId"⟩,
    ⟨"actor", "Actor", .belongsTo "actorId"⟩]

def registry : Registry := ⟨Keyed.ofList [("Actor", actor), ("Movie", movie), ("Part", part)]⟩

def person : EntitySchema :=
  schema "Person" "people" [] [⟨"friends", "Person", .belongsToMany "Friendship"⟩]

/-- A friendship that belongs to people by the associations given. -/
def friendship (associations : List Association) : EntitySchema :=
  schema "Friendship" "friendships" ["personId", "friendId"] associations

def people (associations : List Association) : Registry :=
  ⟨Keyed.ofList [("Person", person), ("Friendship", friendship associations)]⟩

/-- The association that leads to one person. -/
def oneSide : List Association := [⟨"person", "Person", .belongsTo "personId"⟩]

/-- Associations that lead to two people. -/
def bothSides : List Association :=
  [⟨"person", "Person", .belongsTo "personId"⟩, ⟨"friend", "Person", .belongsTo "friendId"⟩]

end Troupe

namespace Registry

open Troupe

/-- Actors and movies are linked by the two associations of a part that lead to them. -/
theorem junction_sides_part :
    ofDescriptions [description actor, description movie, description part] = .ok registry ∧
      ∃ junction toOwner toTarget, registry.junction "Actor" "Movie" "Part" = .ok junction ∧
        junction.ownerKey = "actorId" ∧ junction.targetKey = "movieId" ∧
        part.belongings "Actor" = [toOwner] ∧ part.belongings "Movie" = [toTarget] ∧
        toOwner ≠ toTarget := by
  have built : ofDescriptions [description actor, description movie, description part] =
      .ok registry := rfl
  have found : registry.get? "Actor" = some actor := rfl
  obtain ⟨between, there, accepted, sides⟩ :=
    junction_sides built found (List.mem_singleton_self _) rfl
  have single : (part.belongings "Actor").length = 1 ∧ (part.belongings "Movie").length = 1 := by
    decide
  obtain rfl : part = between := Option.some.inj there
  obtain ⟨junction, success⟩ := accepted.2 single
  obtain ⟨-, toOwner, toTarget, owners, targets, -, -, -, -, apart, -⟩ := sides junction success
  have keys : registry.junction "Actor" "Movie" "Part" =
      .ok ⟨part, "actorId", "movieId"⟩ := rfl
  obtain rfl := Except.ok.inj (keys.symm.trans success)
  exact ⟨built, _, toOwner, toTarget, success, rfl, rfl, owners, targets, apart.2 (by decide)⟩

/-- Friends are found by a friendship that belongs to one person only: the key of this person is
taken for both sides, and everybody is joined with themselves. A friendship that belongs to two
people is refused. -/
theorem junction_of_one_side :
    ofDescriptions [description person, description (friendship oneSide)] =
        .ok (people oneSide) ∧
      person.associations = [⟨"friends", "Person", .belongsToMany "Friendship"⟩] ∧
      (∃ junction, (people oneSide).junction "Person" "Person" "Friendship" = .ok junction ∧
        junction.ownerKey = "personId" ∧ junction.targetKey = "personId" ∧
        ¬ ∃ toOwner ∈ junction.schema.associations, ∃ toTarget ∈ junction.schema.associations,
          toOwner ≠ toTarget ∧ toOwner.link = .belongsTo junction.ownerKey ∧
            toTarget.link = .belongsTo junction.targetKey) ∧
      (Resolution.ofPopulates (people oneSide) person [⟨"Person", []⟩]).map Resolution.joins =
        .ok [Resolution.innerJoin "friendships" "friendships" (.qualified "people" "id")
            (.qualified "friendships" "personId"),
          Resolution.innerJoin "people" "people_1" (.qualified "friendships" "personId")
            (.qualified "people_1" "id")] ∧
      ofDescriptions [description person, description (friendship bothSides)] =
        .ok (people bothSides) ∧
      (people bothSides).junction "Person" "Person" "Friendship" =
        .error (.severalJunctionKeys "Friendship" "Person") := by
  have alone : ¬ ∃ toOwner ∈ (friendship oneSide).associations,
      ∃ toTarget ∈ (friendship oneSide).associations, toOwner ≠ toTarget ∧
        toOwner.link = .belongsTo "personId" ∧ toTarget.link = .belongsTo "personId" := by decide
  exact ⟨rfl, rfl, ⟨⟨friendship oneSide, "personId", "personId"⟩, rfl, rfl, rfl, alone⟩, rfl, rfl,
    rfl⟩

end Registry

end EntityMapper
