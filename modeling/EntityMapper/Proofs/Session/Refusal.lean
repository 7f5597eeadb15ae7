import EntityMapper.Proofs.Schema.Registry
import EntityMapper.Proofs.Session.Writing
import EntityMapper.Proofs.Validation.Coercion
import EntityMapper.Session.Entities

set_option autoImplicit false

/-! Which fields a write refuses before anything is sent. All rows at once get values as they are
given, a single instance gets them in the form of their columns. -/

namespace EntityMapper

/-- A call refuses a field: it names the field among its errors, and nothing was sent. -/
def World.Refuses {σ α : Type} (before : World σ) (field : String) (result : Result α)
    (after : World σ) : Prop :=
  (∃ errors : FieldErrors, result = .error (.validation errors) ∧ errors.get? field ≠ none) ∧
    after.monitor.calls = before.monitor.calls

namespace Column

/-- What may be written to a row that there is may be written to a new one. -/
theorem check_of_update {column : Column} {value : Option Value}
    (passed : column.check value .update = none) (mode : WriteMode) :
    column.check value mode = none := by
  cases mode with
  | update => exact passed
  | insert =>
      unfold check at passed ⊢
      cases given : value.filter fun given => !given.isNull with
      | some held =>
          rw [given] at passed
          exact passed
      | none =>
          rw [given] at passed
          unfold isRequired at passed ⊢
          cases key : column.primaryKey with
          | true => rfl
          | false =>
              rw [key] at passed
              exact passed

end Column

namespace Entity

variable {entity : Entity}

/-- The fault of a field is the one of its column. -/
theorem get?_faults_eq_check (distinct : entity.schema.DistinctFields) {field : String}
    {column : Column} (found : entity.schema.column? field = some column) (mode : WriteMode) :
    (entity.faults mode).get? field = column.check (entity.get? field) mode := by
  obtain ⟨named, before, after, split, others⟩ := List.find?_eq_some_iff_append.1 found
  have here : column.field = field := of_decide_eq_true named
  rw [EntitySchema.DistinctFields, split, List.pairwise_append, List.pairwise_cons] at distinct
  have silent {columns : List Column} (others : ∀ column ∈ columns, column.field ≠ field) :
      columns.findSome? (fun column =>
        if column.field = field then column.check (entity.get? field) mode else none) = none :=
    List.findSome?_eq_none_iff.2 fun column member => if_neg (others column member)
  have first := silent fun other member => by simpa using others other member
  have last := silent fun other member => here ▸ Ne.symm (distinct.2.1.1 other member)
  rw [get?_faults, split, List.findSome?_append, first, Option.none_or, List.findSome?_cons,
    if_pos here, last]
  cases column.check (entity.get? field) mode <;> rfl

/-- A value that is set is held in the form of its column. -/
theorem set_eq_ok {field : String} {column : Column}
    (found : entity.schema.column? field = some column) (value : Value) :
    ∃ changed, entity.set field value = .ok changed ∧ changed.schema = entity.schema ∧
      changed.get? field = some (column.type.coerce value) := by
  obtain ⟨schema, fields, stored, relations, state⟩ := entity
  have named : schema.column? field = some column := found
  refine ⟨.mk schema (fields.insert field (column.type.coerce value)) none relations state, ?_, rfl,
    Keyed.get?_insert_self _ _ _⟩
  rw [set, named]

theorem Sound.get?_faults {mode : WriteMode} (sound : entity.Sound mode) (field : String) :
    (entity.faults mode).get? field = none :=
  (FieldErrors.isEmpty_iff _).1 ((entity.isEmpty_faults mode).2 sound) field

/-- The fields that are named before anything is sent are those that have faults. -/
theorem Course.names_iff {mode : WriteMode} {exchanges : List Exchange} {result : Result Entity}
    (course : entity.Course mode exchanges result) (field : String) :
    (∃ errors : FieldErrors, result = .error (.validation errors) ∧ errors.get? field ≠ none) ∧
        exchanges = [] ↔
      (entity.faults mode).get? field ≠ none := by
  -- Without faults, whatever fails is sent first or is no error of a field.
  cases course with
  | rejected checks =>
      cases checks with
      | @invalid errors unsound exact =>
          rw [Entity.get?_faults, ← exact]
          constructor
          · rintro ⟨⟨others, same, named⟩, -⟩
            obtain rfl := Error.validation.inj (Except.error.inj same)
            exact named
          · exact fun named => ⟨⟨errors, rfl, named⟩, rfl⟩
      | stopped sound uniques answers fails =>
          refine iff_of_false ?_ (not_not_intro (sound.get?_faults field))
          rintro ⟨⟨errors, failed, -⟩, silent⟩
          rw [Except.error.inj failed, (List.append_eq_nil_iff.1 silent).2] at fails
          cases fails
      | taken sound answers held exact =>
          refine iff_of_false ?_ (not_not_intro (sound.get?_faults field))
          rintro ⟨-, rfl⟩
          obtain ⟨exchange, member, -⟩ := held
          cases member
  | unwritten checks fails =>
      refine iff_of_false ?_ (not_not_intro (checks.sound.get?_faults field))
      rintro ⟨⟨errors, failed, -⟩, silent⟩
      rw [Except.error.inj failed, (List.append_eq_nil_iff.1 silent).2] at fails
      cases fails
  | written checks success response =>
      refine iff_of_false ?_ (not_not_intro (checks.sound.get?_faults field))
      rintro ⟨-, silent⟩
      cases (List.append_eq_nil_iff.1 silent).2

end Entity

namespace Database

variable {σ : Type} (db : Database σ)

/-- A write refuses the fields that have faults, and no others. -/
theorem write_refuses_iff {mode : WriteMode} {entity : Entity} (writable : entity.Writable mode)
    (world : World σ) (field : String) :
    world.Refuses field (db.write mode (entity, world)).1 (db.write mode (entity, world)).2.2 ↔
      (entity.faults mode).get? field ≠ none := by
  obtain ⟨exchanges, outcome, after, course, exchanged, run⟩ := db.write_course writable world
  have silent : after.monitor.calls = world.monitor.calls ↔ exchanges = [] := by
    rw [exchanged.calls, List.append_right_eq_self, List.map_eq_nil_iff]
  rw [run, ← course.names_iff field, ← silent, World.Refuses]
  cases outcome with
  | error error => rw [Writing.keep]; simp
  | ok changed => rw [Writing.keep]; simp

/-- The values that are set in all rows pass the checks of their columns, unless their fields are
named among the errors. -/
theorem check_of_checkedValues {schema : EntitySchema} (name : String)
    {given : List (String × Value)} (before : FieldErrors) (values : List (String × Value))
    (known : ∀ entry ∈ given, (schema.column? entry.1).isSome = true) :
    ∃ errors columns, checkedValues schema name given before values = .ok (errors, columns) ∧
      ∀ field, errors.get? field = none → before.get? field = none ∧
        ∀ value, (field, value) ∈ given → ∃ column, schema.column? field = some column ∧
          column.check (some value) .update = none := by
  induction given generalizing before values with
  | nil =>
      exact ⟨before, values, rfl, fun field free => ⟨free, fun value nothing => nomatch nothing⟩⟩
  | cons entry rest ih =>
      obtain ⟨first, given⟩ := entry
      obtain ⟨here, others⟩ := List.forall_mem_cons.1 known
      obtain ⟨column, found⟩ := Option.isSome_iff_exists.1 here
      rw [checkedValues, found]
      dsimp only
      cases checked : column.check (some given) .update with
      | none =>
          obtain ⟨errors, columns, success, passes⟩ := ih _ _ others
          refine ⟨errors, columns, success, fun field free => ?_⟩
          obtain ⟨start, later⟩ := passes field free
          refine ⟨start, fun value member => ?_⟩
          rcases List.mem_cons.1 member with same | there
          · obtain ⟨rfl, rfl⟩ := Prod.mk.inj same
            exact ⟨column, found, checked⟩
          · exact later value there
      | some reason =>
          obtain ⟨errors, columns, success, passes⟩ := ih _ _ others
          refine ⟨errors, columns, success, fun field free => ?_⟩
          obtain ⟨start, later⟩ := passes field free
          rw [FieldErrors.get?_add, Option.or_eq_none_iff] at start
          refine ⟨start.1, fun value member => ?_⟩
          rcases List.mem_cons.1 member with same | there
          · rw [if_pos (Prod.mk.inj same).1] at start
            cases start.2
          · exact later value there

/-- A value that is set in all rows without being refused passes the check of its column. -/
theorem check_of_updateAll {name : String} {schema : EntitySchema}
    (listed : db.registry.find name = .ok schema) {values : List (String × Value)}
    (known : ∀ entry ∈ values, (schema.column? entry.1).isSome = true) {filter : Filter}
    {world : World σ} {field : String} {value : Value} (given : (field, value) ∈ values)
    (accepted : ¬ world.Refuses field (db.updateAll name values filter world).1
      (db.updateAll name values filter world).2) :
    ∃ column, schema.column? field = some column ∧
      column.check (some value) .update = none := by
  obtain ⟨errors, columns, success, passes⟩ := check_of_checkedValues name .empty [] known
  have unnamed : errors.get? field = none := by
    by_contra named
    have held : errors.isEmpty = false := by
      rw [Bool.eq_false_iff]
      exact fun vacant => named ((FieldErrors.isEmpty_iff errors).1 vacant field)
    have refused : db.updateAll name values filter world =
        (.error (.validation errors), world) := by
      rw [updateAll, Session.definition_bind, listed]
      dsimp only
      rw [Session.query_bind, success]
      dsimp only
      rw [held]
      rfl
    rw [refused] at accepted
    exact accepted ⟨⟨errors, rfl, named⟩, rfl⟩
  exact (passes field unnamed).2 value given

/-- A value that passes the check of a column passes it in the form of the column iff no rule of the
column lapses. What an update of all rows accepts is refused of a single instance, for an insert as
for an update, in no other case. -/
theorem accepted_unless_lapsed :
    (∀ (column : Column) (mode : WriteMode) (value : Value),
      column.check (some value) mode = none →
        (column.check (some (column.type.coerce value)) mode = none ↔
          ∀ rule ∈ column.rules, ¬ rule.Lapses column.type value)) ∧
    ∀ (descriptions : List EntityDescription) (name : String) (schema : EntitySchema),
      Registry.ofDescriptions descriptions = .ok db.registry →
      db.registry.get? name = some schema →
      ∀ values : List (String × Value),
        (∀ entry ∈ values, (schema.column? entry.1).isSome = true) →
        ∀ (filter : Filter) (world : World σ) (field : String) (value : Value),
          (field, value) ∈ values →
          ¬ world.Refuses field (db.updateAll name values filter world).1
            (db.updateAll name values filter world).2 →
          ∃ column, schema.column? field = some column ∧
            ∀ entity : Entity, entity.schema = schema →
              ∃ changed, entity.set field value = .ok changed ∧
                ∀ (mode : WriteMode) (later : World σ), changed.Writable mode →
                  (later.Refuses field (db.write mode (changed, later)).1
                      (db.write mode (changed, later)).2.2 ↔
                    ∃ rule ∈ column.rules, rule.Lapses column.type value) := by
  refine ⟨fun column mode value => Column.check_coerce, ?_⟩
  intro descriptions name schema built found values known filter world field value given accepted
  have listed : db.registry.find name = .ok schema := by
    rw [Registry.find, found]
    rfl
  have distinct := (Registry.regular_ofDescriptions built name schema found).2
  obtain ⟨column, named, passed⟩ := db.check_of_updateAll listed known given accepted
  refine ⟨column, named, ?_⟩
  rintro entity rfl
  obtain ⟨changed, set, typed, held⟩ := Entity.set_eq_ok named value
  refine ⟨changed, set, fun mode later writable => ?_⟩
  have fault : (changed.faults mode).get? field =
      column.check (some (column.type.coerce value)) mode := by
    rw [Entity.get?_faults_eq_check (typed ▸ distinct) (typed ▸ named), held]
  rw [db.write_refuses_iff writable, fault, Ne,
    Column.check_coerce (Column.check_of_update passed mode)]
  push Not
  rfl

end Database

namespace Diary

private def key : Column := ⟨"id", "id", .int, none, none, none, false, true, true, false, []⟩

/-- A day out of a list, which spells it. -/
def day : Column := { Column.plain "day" .date with rules := [.oneOf [.text "2024-05-01"]] }

private def reminder : Column := Column.plain "reminder" .date

def description : EntityDescription := ⟨"Entry", "entries", [key, day, reminder], []⟩

def entry : EntitySchema :=
  ⟨"Entry", "entries", [key, day, reminder], [], key, List.mem_cons_self⟩

def registry : Registry := ⟨Keyed.ofList [("Entry", entry)]⟩

def blank : Entity :=
  .mk entry (Keyed.ofList [("id", .null), ("day", .null), ("reminder", .null)]) none [] .new

/-- The days of all entries. -/
def days : List (String × Value) := [("day", .text "2024-05-01"), ("reminder", .text "2024-05-02")]

end Diary

namespace Database

/-- Two spelled days are accepted for all entries. Of a single one, the day out of a list is
refused, since the list spells it, and the other one is not. -/
theorem accepted_unless_lapsed_diary :
    Registry.ofDescriptions [Diary.description] = .ok Diary.registry ∧
      Diary.day.check (some (.text "2024-05-01")) .insert = none ∧
      (Diary.day.check (some (Diary.day.type.coerce (.text "2024-05-01"))) .insert = none ↔
        ∀ rule ∈ Diary.day.rules, ¬ rule.Lapses Diary.day.type (.text "2024-05-01")) ∧
      ((mute Diary.registry).updateAll "Entry" Diary.days [] .fresh).1 = .ok 0 ∧
      (∃ changed, Diary.blank.set "day" (.text "2024-05-01") = .ok changed ∧
        ∀ (mode : WriteMode) (later : World Unit), changed.Writable mode →
          later.Refuses "day" ((mute Diary.registry).write mode (changed, later)).1
            ((mute Diary.registry).write mode (changed, later)).2.2) ∧
      ∃ changed, Diary.blank.set "reminder" (.text "2024-05-02") = .ok changed ∧
        ∀ (mode : WriteMode) (later : World Unit), changed.Writable mode →
          ¬ later.Refuses "reminder" ((mute Diary.registry).write mode (changed, later)).1
            ((mute Diary.registry).write mode (changed, later)).2.2 := by
  have built : Registry.ofDescriptions [Diary.description] = .ok Diary.registry := rfl
  have found : (mute Diary.registry).registry.get? "Entry" = some Diary.entry := rfl
  have passed : Diary.day.check (some (.text "2024-05-01")) .insert = none := rfl
  have formed := (mute Diary.registry).accepted_unless_lapsed.1 Diary.day .insert _ passed
  have done : ((mute Diary.registry).updateAll "Entry" Diary.days [] .fresh).1 = .ok 0 := rfl
  have known : ∀ entry ∈ Diary.days, (Diary.entry.column? entry.1).isSome = true := by decide
  have accepted (field : String) : ¬ World.fresh.Refuses field
      ((mute Diary.registry).updateAll "Entry" Diary.days [] .fresh).1
      ((mute Diary.registry).updateAll "Entry" Diary.days [] .fresh).2 := by
    rintro ⟨⟨errors, failed, -⟩, -⟩
    cases done.symm.trans failed
  have forms := (mute Diary.registry).accepted_unless_lapsed.2 _ "Entry" Diary.entry built found
    Diary.days known [] World.fresh
  refine ⟨built, passed, formed, done, ?_, ?_⟩
  · obtain ⟨column, named, single⟩ := forms "day" (.text "2024-05-01") (by simp [Diary.days])
      (accepted "day")
    obtain ⟨changed, set, refuses⟩ := single Diary.blank rfl
    obtain rfl : Diary.day = column := Option.some.inj named
    refine ⟨changed, set, fun mode later writable => (refuses mode later writable).2 ?_⟩
    refine ⟨_, List.mem_cons_self, .unlisted ⟨_, List.mem_cons_self, rfl⟩ ?_⟩
    exact List.forall_mem_singleton.2 rfl
  · obtain ⟨column, named, single⟩ := forms "reminder" (.text "2024-05-02") (by simp [Diary.days])
      (accepted "reminder")
    obtain ⟨changed, set, refuses⟩ := single Diary.blank rfl
    have free : column.rules = [] := by
      obtain rfl := Option.some.inj named
      rfl
    refine ⟨changed, set, fun mode later writable refused => ?_⟩
    obtain ⟨rule, member, -⟩ := (refuses mode later writable).1 refused
    rw [free] at member
    cases member

/-- A form that is refused: a list that spells a day admits the spelling, which all entries may be
given, and not the day that a single entry makes of it. -/
theorem spelled_day_lapses :
    Registry.ofDescriptions [Diary.description] = .ok Diary.registry ∧
      Diary.day.check (some (.text "2024-05-01")) .update = none ∧
      Diary.day.check (some (Diary.day.type.coerce (.text "2024-05-01"))) .update =
        some .invalidValue ∧
      ((mute Diary.registry).updateAll "Entry" [("day", .text "2024-05-01")] [] .fresh).1 = .ok 0 ∧
      ∃ changed, Diary.blank.set "day" (.text "2024-05-01") = .ok changed ∧
        ((mute Diary.registry).insert (changed, .fresh)).1 =
          .error (.validation (FieldErrors.empty.add "day" .invalidValue)) :=
  ⟨rfl, rfl, rfl, rfl, _, rfl, rfl⟩

end Database

end EntityMapper
