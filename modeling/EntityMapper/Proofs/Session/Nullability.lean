import EntityMapper.Proofs.Schema.Registry
import EntityMapper.Proofs.Session.Writing
import EntityMapper.Proofs.Statement.Declaration
import EntityMapper.Session.Entities

set_option autoImplicit false

/-! Writes keep to the table of their type: no column gets null that the table declares as
`NOT NULL`, whatever is to be written. -/

namespace EntityMapper

open Fragment Outcome

/-- A statement gives null to no column that another one declares as `NOT NULL`. -/
def Statement.Respects (statement created : Statement) : Prop :=
  ∀ column value, (column, value) ∈ statement.assigned → column ∈ created.required →
    value.isNull = false

/-- From one world to the next the database was handed statements of a kind, one after the other,
and no others. -/
def World.Sends {σ : Type} (kind : Statement → Prop) (before after : World σ) : Prop :=
  ∃ sent : List Statement, after.monitor.calls =
      before.monitor.calls ++ sent.map (fun statement => statement.call false) ∧
    ∀ statement ∈ sent, kind statement

theorem Database.Exchanged.sends {σ : Type} {db : Database σ} {before after : World σ}
    {exchanges : List Exchange} {kind : Statement → Prop}
    (exchanged : db.Exchanged before exchanges after)
    (all : ∀ exchange ∈ exchanges, kind exchange.statement) : before.Sends kind after := by
  refine ⟨exchanges.map Exchange.statement, ?_, List.forall_mem_map.2 all⟩
  rw [exchanged.calls, List.map_map]
  rfl

theorem World.Sends.imp {σ : Type} {kind other : Statement → Prop} {before after : World σ}
    (sends : before.Sends kind after) (weaker : ∀ statement, kind statement → other statement) :
    before.Sends other after := by
  obtain ⟨sent, calls, all⟩ := sends
  exact ⟨sent, calls, fun statement member => weaker statement (all statement member)⟩

namespace Column

/-- What passes the check as null goes to a column that may be null, or to a key that the database
makes. -/
theorem nullable_of_check {column : Column} {value : Option Value} {mode : WriteMode}
    (passes : column.check value mode = none)
    (null : (value.filter fun given => !given.isNull) = none)
    (keyed : mode = .insert → column.primaryKey = false) : column.nullable = true := by
  have free : column.isRequired mode = false := by
    rw [check, null] at passes
    by_contra required
    rw [Bool.not_eq_false] at required
    rw [required] at passes
    cases passes
  unfold isRequired at free
  cases key : column.primaryKey with
  | true =>
      rw [key, if_pos rfl] at free
      cases mode with
      | insert => cases (keyed rfl).symm.trans key
      | update => cases free
  | false =>
      rw [key, if_neg Bool.false_ne_true] at free
      rw [nullable, free, key]
      rfl

end Column

namespace EntitySchema

/-- Null goes only to columns that may be null. -/
def AdmitsNulls (schema : EntitySchema) (values : List (String × Value)) : Prop :=
  ∀ storage value, (storage, value) ∈ values → value.isNull = true →
    ∃ column ∈ schema.columns, column.storage = storage ∧ column.nullable = true

/-- The table of a type requires the columns that are not nullable. -/
theorem required_createTable {schema : EntitySchema} {created : Statement}
    (declared : (schema.createTable >>= Fragment.statement) = .ok created) :
    created.required =
      (schema.columns.filter fun column => !column.nullable).map Column.storage := by
  obtain ⟨fragment, success, written⟩ := bind_eq_ok declared
  rw [Table.required_created success written, List.filter_map, List.map_map]
  rfl

theorem AdmitsNulls.respects {schema : EntitySchema} {statement created : Statement}
    (admits : schema.AdmitsNulls statement.assigned) (distinct : schema.DistinctStorages)
    (declared : (schema.createTable >>= Fragment.statement) = .ok created) :
    statement.Respects created := by
  intro storage value assigned required
  rw [required_createTable declared] at required
  obtain ⟨column, kept, rfl⟩ := List.mem_map.1 required
  obtain ⟨member, strict⟩ := List.mem_filter.1 kept
  by_contra null
  rw [Bool.not_eq_false] at null
  obtain ⟨other, there, same, nullable⟩ := admits _ value assigned null
  rw [distinct.eq_of_storage there member same] at nullable
  rw [nullable] at strict
  cases strict

end EntitySchema

namespace Entity

variable {entity : Entity}

theorem filter_of_null {field : String} (null : (entity.value field).isNull = true) :
    ((entity.get? field).filter fun given => !given.isNull) = none := by
  rw [value] at null
  cases held : entity.get? field with
  | none => rfl
  | some given =>
      rw [held, Option.getD_some] at null
      rw [Option.filter_some, null]
      rfl

theorem Sound.admits_insertedValues (sound : entity.Sound .insert) :
    entity.schema.AdmitsNulls (Database.insertedValues entity) := by
  intro storage value member null
  obtain ⟨column, kept, equal⟩ := List.mem_map.1 member
  obtain ⟨rfl, rfl⟩ := Prod.mk.inj equal
  obtain ⟨inside, keyless⟩ := List.mem_filter.1 kept
  rw [null, Bool.not_true, Bool.or_false, Bool.not_eq_true'] at keyless
  exact ⟨column, inside, rfl, Column.nullable_of_check (sound column inside) (filter_of_null null)
    fun _ => keyless⟩

theorem Sound.admits_updatedValues (sound : entity.Sound .update) :
    entity.schema.AdmitsNulls (Database.updatedValues entity) := by
  intro storage value member null
  obtain ⟨column, kept, equal⟩ := List.mem_map.1 member
  obtain ⟨rfl, rfl⟩ := Prod.mk.inj equal
  have inside := (List.mem_filter.1 kept).1
  exact ⟨column, inside, rfl, Column.nullable_of_check (sound column inside) (filter_of_null null)
    nofun⟩

/-- The row of an instance that passes its checks has null only where its table admits it. -/
theorem Sound.admits_rowStatement {mode : WriteMode} {statement : Statement}
    (sound : entity.Sound mode) (success : entity.rowStatement mode = .ok statement) :
    entity.schema.AdmitsNulls statement.assigned := by
  cases mode with
  | insert =>
      obtain ⟨fragment, built, written⟩ := bind_eq_ok success
      rw [Query.assigned_insert built written]
      exact sound.admits_insertedValues
  | update =>
      obtain ⟨fragment, built, written⟩ := bind_eq_ok success
      rw [Query.assigned_update built written]
      exact sound.admits_updatedValues

theorem Checks.admits {mode : WriteMode} {exchanges : List Exchange} {result : Result Unit}
    (checks : entity.Checks mode exchanges result) :
    ∀ exchange ∈ exchanges, entity.schema.AdmitsNulls exchange.statement.assigned := by
  intro exchange member
  obtain ⟨unique, asked⟩ := checks.sent exchange member
  rw [Query.assigned_findOne asked]
  exact fun storage value nothing => absurd nothing List.not_mem_nil

theorem Course.admits {mode : WriteMode} {exchanges : List Exchange} {result : Result Entity}
    (course : entity.Course mode exchanges result) :
    ∀ exchange ∈ exchanges, entity.schema.AdmitsNulls exchange.statement.assigned := by
  cases course with
  | rejected checks => exact checks.admits
  | unwritten checks fails =>
      exact List.forall_mem_append.2 ⟨checks.admits, fun exchange member =>
        checks.sound.admits_rowStatement (fails.sent exchange member)⟩
  | written checks success response =>
      exact List.forall_mem_append.2 ⟨checks.admits,
        List.forall_mem_singleton.2 (checks.sound.admits_rowStatement success)⟩

end Entity

namespace Database

variable {σ : Type} (db : Database σ)

theorem write_admits (mode : WriteMode) (entity : Entity) (world : World σ) :
    world.Sends (fun statement => entity.schema.AdmitsNulls statement.assigned)
      (db.write mode (entity, world)).2.2 := by
  obtain ⟨exchanges, exchanged, course⟩ := db.saving_course mode entity world
  have same : (db.write mode (entity, world)).2.2 = (db.saving mode entity world).2 := by
    rw [write_eq]
    obtain ⟨_ | _, _⟩ := db.saving mode entity world <;> rfl
  rw [same]
  apply exchanged.sends
  rcases course with ⟨rfl, -⟩ | ⟨-, course⟩
  · exact List.forall_mem_nil _
  · exact course.admits

theorem admits_checkedValues {schema : EntitySchema} {entity : String}
    {given values columns : List (String × Value)} {before errors : FieldErrors}
    (success : checkedValues schema entity given before values = .ok (errors, columns))
    (admits : schema.AdmitsNulls values) : schema.AdmitsNulls columns := by
  induction given generalizing before values with
  | nil =>
      obtain ⟨-, rfl⟩ := Prod.mk.inj (Except.ok.inj success)
      exact admits
  | cons entry rest ih =>
      obtain ⟨field, value⟩ := entry
      rw [checkedValues] at success
      cases found : schema.column? field with
      | none =>
          rw [found] at success
          cases success
      | some column =>
          rw [found] at success
          dsimp only at success
          cases passes : column.check (some value) .update with
          | some reason =>
              rw [passes] at success
              exact ih success admits
          | none =>
              rw [passes] at success
              refine ih success fun storage other member null => ?_
              rcases List.mem_append.1 member with old | new
              · exact admits storage other old null
              · obtain ⟨rfl, rfl⟩ := Prod.mk.inj (List.mem_singleton.1 new)
                have absent : ((some other).filter fun given => !given.isNull) = none := by
                  rw [Option.filter_some, null]
                  rfl
                exact ⟨column, List.mem_of_find?_eq_some found, rfl,
                  Column.nullable_of_check passes absent nofun⟩

theorem updateAll_admits {entity : String} {schema : EntitySchema}
    (found : db.registry.find entity = .ok schema) (values : List (String × Value))
    (filter : Filter) (world : World σ) :
    world.Sends (fun statement => schema.AdmitsNulls statement.assigned)
      (db.updateAll entity values filter world).2 := by
  have meets : db.Meets (db.updateAll entity values filter) fun exchanges _ =>
      ∀ exchange ∈ exchanges, schema.AdmitsNulls exchange.statement.assigned := by
    apply Meets.definition_bind
    · exact fun _ _ => List.forall_mem_nil _
    · intro described known
      obtain rfl := Except.ok.inj (known.symm.trans found)
      apply Meets.query_bind
      · exact fun _ _ => List.forall_mem_nil _
      · rintro ⟨errors, columns⟩ checked
        have admits := admits_checkedValues checked
          fun _ _ nothing => absurd nothing List.not_mem_nil
        dsimp only
        split
        · exact .throw (List.forall_mem_nil _)
        · apply Meets.query_bind
          · exact fun _ _ => List.forall_mem_nil _
          · intro fragment built
            have row : ∀ {statement : Statement}, fragment.statement = .ok statement →
                described.AdmitsNulls statement.assigned := by
              intro statement written
              rw [Query.assigned_update built written]
              exact admits
            apply Meets.run_bind
            · exact fun exchanges error fails exchange member => row (fails.sent exchange member)
            · exact fun statement response success =>
                .pure (List.forall_mem_singleton.2 (row success))
  obtain ⟨exchanges, exchanged, admits⟩ := meets world
  exact exchanged.sends admits

/-- Whatever is inserted or updated, alone or with all that pass a filter, and whatever the database
answers and the hooks refuse: no statement that is sent gives null to a column that the table of the
type declares as `NOT NULL`. -/
theorem writes_respect_table {descriptions : List EntityDescription} {registry : Registry}
    (built : Registry.ofDescriptions descriptions = .ok registry) {name : String}
    {schema : EntitySchema} (found : registry.get? name = some schema) {created : Statement}
    (declared : (schema.createTable >>= Fragment.statement) = .ok created) :
    (∀ (entity : Entity) (world : World σ), entity.schema = schema →
      world.Sends (fun statement => statement.Respects created) (db.insert (entity, world)).2.2 ∧
      world.Sends (fun statement => statement.Respects created)
        (db.update (entity, world)).2.2) ∧
    (db.registry = registry → ∀ (values : List (String × Value)) (filter : Filter)
      (world : World σ), world.Sends (fun statement => statement.Respects created)
        (db.updateAll name values filter world).2) := by
  have distinct := Registry.distinctStorages_ofDescriptions built found
  have respects : ∀ statement : Statement, schema.AdmitsNulls statement.assigned →
      statement.Respects created := fun statement admits => admits.respects distinct declared
  constructor
  · rintro entity world rfl
    exact ⟨(db.write_admits .insert entity world).imp respects,
      (db.write_admits .update entity world).imp respects⟩
  · rintro rfl values filter world
    have listed : db.registry.find name = .ok schema := by
      rw [Registry.find, found]
      rfl
    exact (db.updateAll_admits listed values filter world).imp respects

end Database

namespace Club

private def key : Column := ⟨"id", "id", .int, none, none, none, false, true, true, false, []⟩

private def email : Column := { Column.plain "email" .varchar with required := true }

private def nickname : Column := { Column.plain "nickname" .varchar with storage := "nick" }

def description : EntityDescription := ⟨"Member", "members", [key, email, nickname], []⟩

def member : EntitySchema :=
  ⟨"Member", "members", [key, email, nickname], [], key, List.mem_cons_self⟩

/-- Members with an address and maybe a nickname. -/
def registry : Registry := ⟨Keyed.ofList [("Member", member)]⟩

/-- The table of the members. -/
def created : Statement :=
  ⟨"CREATE TABLE IF NOT EXISTS \x60members\x60 (\x60id\x60 INT NOT NULL AUTO_INCREMENT, " ++
    "PRIMARY KEY (\x60id\x60), \x60email\x60 VARCHAR(255) NOT NULL, " ++
    "\x60nick\x60 VARCHAR(255) NULL);", []⟩

/-- A member without a key and a nickname. -/
def fresh : Entity :=
  .mk member (Keyed.ofList [("id", .null), ("email", .text "a@b.c"), ("nickname", .null)]) none []
    .new

end Club

namespace Database

/-- A new member gets null for its nickname, and nothing for its key, which the database makes. An
address cannot be taken from all members: nothing is sent. -/
theorem writes_respect_table_club :
    Registry.ofDescriptions [Club.description] = .ok Club.registry ∧
      (Club.member.createTable >>= Fragment.statement) = .ok Club.created ∧
      Club.created.required = ["id", "email"] ∧
      ((mute Club.registry).insert (Club.fresh, .fresh)).2.2.monitor.calls =
        [("INSERT INTO \x60members\x60 (\x60email\x60, \x60nick\x60) VALUES (?, ?);",
          [.text "a@b.c", .null], false)] ∧
      World.fresh.Sends (fun statement => statement.Respects Club.created)
        ((mute Club.registry).insert (Club.fresh, .fresh)).2.2 ∧
      ((mute Club.registry).updateAll "Member" [("email", .null)] [] .fresh).2.monitor.calls = [] ∧
      World.fresh.Sends (fun statement => statement.Respects Club.created)
        ((mute Club.registry).updateAll "Member" [("nickname", .null)] [] .fresh).2 := by
  have built : Registry.ofDescriptions [Club.description] = .ok Club.registry := rfl
  have declared : (Club.member.createTable >>= Fragment.statement) = .ok Club.created := rfl
  obtain ⟨single, all⟩ := writes_respect_table (mute Club.registry) built
    (rfl : Club.registry.get? "Member" = some Club.member) declared
  exact ⟨built, declared, EntitySchema.required_createTable declared, rfl,
    (single Club.fresh .fresh rfl).1, rfl, all rfl _ _ _⟩

end Database

end EntityMapper
