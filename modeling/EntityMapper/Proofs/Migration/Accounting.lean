import EntityMapper.Proofs.Migration.Course
import Mathlib.Data.Multiset.Filter

set_option autoImplicit false

/-! Calls that apply and undo migrations, in any order and whatever their results: the records
account for the steps that were taken. -/

namespace EntityMapper

open Migration

variable {σ : Type}

namespace Migration

/-- A migration leaves the table of migrations as it is, whatever else it does. -/
def Spares (migration : Migration σ) (db : Database σ) (holds : σ → Multiset Recorded → Prop) :
    Prop :=
  ∀ (world : World σ) rows, holds world.database rows →
    holds (migration.up db world).2.database rows ∧
      holds (migration.down db world).2.database rows

/-- With the notes, each state tells the steps that were taken. -/
theorem recording_noting {db : Database σ} {holds : σ → Multiset Recorded → Prop}
    {migrations : List (Migration σ)} (faithful : Faithful db holds)
    (spared : ∀ migration ∈ migrations, migration.Spares db holds) :
    Recording db.noting (fun state rows steps => holds state.1 rows ∧ state.2 = steps)
      (migrations.map (Migration.noting db)) where
  faithful steps :=
    { looksUp := fun rows name => ((faithful.looksUp rows name).noting steps).imp
        fun _ _ ⟨⟨kept, shown⟩, same⟩ => ⟨⟨kept, same⟩, shown⟩
      inserts := fun rows name time => ((faithful.inserts rows name time).noting steps).imp
        fun _ _ ⟨⟨id, known, fresh, kept⟩, same⟩ => ⟨id, known, fresh, kept, same⟩
      deletes := fun row rows identified => (faithful.deletes row rows identified).noting steps }
  ups noted member world rows steps held := by
    obtain ⟨migration, present, rfl⟩ := List.mem_map.1 member
    obtain ⟨held, rfl⟩ := held
    exact ⟨(spared migration present ⟨world.database.1, world.monitor, world.supply⟩ rows held).1,
      rfl⟩
  downs noted member world rows steps held := by
    obtain ⟨migration, present, rfl⟩ := List.mem_map.1 member
    obtain ⟨held, rfl⟩ := held
    exact ⟨(spared migration present ⟨world.database.1, world.monitor, world.supply⟩ rows held).2,
      rfl⟩

/-- A call that applies or undoes migrations. -/
inductive Command where
  | migrate
  | rollback

namespace Command

def perform (db : Database σ) (migrations : List (Migration σ)) : Command → Session σ Unit
  | .migrate => Migration.migrate db migrations
  | .rollback => Migration.rollback db migrations

/-- The steps that a call takes, as the migrations note them. -/
def steps (db : Database σ) (migrations : List (Migration σ)) (command : Command)
    (world : World σ) : List Step :=
  (command.perform db.noting (migrations.map (Migration.noting db))
    (world.noting [])).2.database.2

/-- The notes change nothing else, and it does not matter what was noted before. -/
theorem perform_noting (db : Database σ) (migrations : List (Migration σ)) (command : Command)
    (world : World σ) (earlier : List Step) :
    command.perform db.noting (migrations.map (Migration.noting db)) (world.noting earlier) =
      ((command.perform db migrations world).1, (command.perform db migrations world).2.noting
        (earlier ++ command.steps db migrations world)) := by
  have notes : Notes (command.perform db.noting (migrations.map (Migration.noting db)))
      (command.perform db migrations) := by
    cases command with
    | migrate => exact Notes.applyAll db migrations
    | rollback =>
        rw [perform, Migration.rollback, ← List.map_reverse]
        exact Notes.undoFirst db migrations.reverse
  obtain ⟨taken, same⟩ := notes world
  have first : command.steps db migrations world = taken := by
    rw [steps, same]
    rfl
  rw [first, same]

end Command

/-- The steps that calls take one after the other, whatever their results, and the world that is
left. -/
def course (db : Database σ) (migrations : List (Migration σ)) :
    List Command → World σ → List Step × World σ
  | [], world => ([], world)
  | command :: rest, world =>
      let (later, last) := course db migrations rest (command.perform db migrations world).2
      (command.steps db migrations world ++ later, last)

section

variable {db : Database σ} {holds : σ → Multiset Recorded → Prop}
  {migrations : List (Migration σ)} {world : World σ} {rows : Multiset Recorded}
  {applied : List String} {steps : List Step}

theorem names_noting (db : Database σ) (migrations : List (Migration σ)) :
    (migrations.map (Migration.noting db)).map Migration.name = migrations.map Migration.name := by
  rw [List.map_map]
  rfl

theorem migrate_agrees (distinct : (migrations.map Migration.name).Nodup)
    (faithful : Faithful db holds) (spared : ∀ migration ∈ migrations, migration.Spares db holds)
    (begun : applied <+: migrations.map Migration.name) (held : holds world.database rows)
    (agree : Agree applied rows steps) :
    ∃ reached left, reached <+: migrations.map Migration.name ∧
      holds (migrate db migrations world).2.database left ∧
      Agree reached left (steps ++ Command.migrate.steps db migrations world) ∧
      ((migrate db migrations world).1 = .ok () → reached = migrations.map Migration.name) := by
  rw [← names_noting db] at distinct begun
  have ran : applyAll db.noting (migrations.map (Migration.noting db)) (world.noting steps) =
      ((migrate db migrations world).1, (migrate db migrations world).2.noting
        (steps ++ Command.migrate.steps db migrations world)) :=
    Command.migrate.perform_noting db migrations world steps
  have stands : Stands (fun state rows steps => holds state.1 rows ∧ state.2 = steps)
      ([] ++ applied) (world.noting steps) := ⟨rows, steps, ⟨held, rfl⟩, agree⟩
  obtain ⟨reached, begins, ⟨left, all, ⟨kept, counted⟩, agrees⟩, complete⟩ :=
    (recording_noting faithful spared).applyAll (fun _ member => member) distinct begun stands
  rw [ran] at kept counted complete
  rw [names_noting] at begins complete
  obtain rfl := counted
  exact ⟨reached, left, begins, kept, agrees, complete⟩

theorem rollback_agrees (distinct : (migrations.map Migration.name).Nodup)
    (faithful : Faithful db holds) (spared : ∀ migration ∈ migrations, migration.Spares db holds)
    (begun : applied <+: migrations.map Migration.name) (held : holds world.database rows)
    (agree : Agree applied rows steps) :
    ∃ remaining left, remaining <+: applied ∧
      holds (rollback db migrations world).2.database left ∧
      Agree remaining left (steps ++ Command.rollback.steps db migrations world) ∧
      Undoes applied rows (Command.rollback.steps db migrations world) left := by
  rw [← names_noting db, ← List.reverse_reverse (migrations.map (noting db))] at distinct begun
  have ran : undoFirst db.noting (migrations.map (Migration.noting db)).reverse
      (world.noting steps) = ((rollback db migrations world).1,
        (rollback db migrations world).2.noting
          (steps ++ Command.rollback.steps db migrations world)) :=
    Command.rollback.perform_noting db migrations world steps
  have noted : holds (world.noting steps).database.1 rows ∧
      (world.noting steps).database.2 = steps := ⟨held, rfl⟩
  obtain ⟨taken, left, undoes, ⟨kept, counted⟩, remaining, begins, agrees⟩ :=
    (recording_noting faithful spared).undoFirst (fun _ member => List.mem_reverse.1 member)
      distinct begun noted agree
  rw [ran] at kept counted
  obtain rfl := List.append_cancel_left counted
  exact ⟨remaining, left, begins, kept, agrees, undoes⟩

/-- Whatever calls follow one another, the records and the steps go on agreeing. -/
theorem course_agrees (distinct : (migrations.map Migration.name).Nodup)
    (faithful : Faithful db holds) (spared : ∀ migration ∈ migrations, migration.Spares db holds)
    (commands : List Command) (begun : applied <+: migrations.map Migration.name)
    (held : holds world.database rows) (agree : Agree applied rows steps) :
    ∃ reached left, reached <+: migrations.map Migration.name ∧
      holds (course db migrations commands world).2.database left ∧
      Agree reached left (steps ++ (course db migrations commands world).1) := by
  induction commands generalizing world rows applied steps with
  | nil =>
      refine ⟨applied, rows, begun, held, ?_⟩
      rw [course, List.append_nil]
      exact agree
  | cons command rest ih =>
      have here : ∃ reached left, reached <+: migrations.map Migration.name ∧
          holds (command.perform db migrations world).2.database left ∧
          Agree reached left (steps ++ command.steps db migrations world) := by
        cases command with
        | migrate =>
            obtain ⟨reached, left, begins, kept, agrees, -⟩ :=
              migrate_agrees distinct faithful spared begun held agree
            exact ⟨reached, left, begins, kept, agrees⟩
        | rollback =>
            obtain ⟨remaining, left, begins, kept, agrees, -⟩ :=
              rollback_agrees distinct faithful spared begun held agree
            exact ⟨remaining, left, begins.trans begun, kept, agrees⟩
      obtain ⟨reached, left, begins, kept, agrees⟩ := here
      rw [course, ← List.append_assoc]
      exact ih begins kept agrees

end

/-- The rows record the first names of a list, and the steps account for them: these names are
those whose last successful step was up, and none was applied twice without being undone in
between. -/
structure Accounted (names applied : List String) (rows : Multiset Recorded) (steps : List Step) :
    Prop where
  first : applied <+: names
  recorded : rows.map Recorded.name = applied
  latest : ∀ name, (∃ row ∈ rows, row.name = name) ↔ latest steps name = some .up
  alternating : Alternating steps

/-- Migrations of different names, which leave alone their table in a database that keeps it
faithfully, are applied and undone in any order from an empty table on, whatever steps fail. Then
the records account for the steps; a call that applies them next and succeeds leaves all recorded;
and one that undoes a migration next undoes the last one recorded. Any calls may come before, so
this is so of each call among others. -/
theorem records_account_for_steps {db : Database σ} {holds : σ → Multiset Recorded → Prop}
    {migrations : List (Migration σ)} (distinct : (migrations.map Migration.name).Nodup)
    (faithful : Faithful db holds) (spared : ∀ migration ∈ migrations, migration.Spares db holds)
    {world : World σ} (empty : holds world.database 0) (commands : List Command) :
    ∃ applied rows, holds (course db migrations commands world).2.database rows ∧
      Accounted (migrations.map Migration.name) applied rows
        (course db migrations commands world).1 ∧
      (∀ next, migrate db migrations (course db migrations commands world).2 = (.ok (), next) →
        ∃ all : Multiset Recorded, holds next.database all ∧
          all.map Recorded.name = migrations.map Migration.name) ∧
      ∃ left, holds (rollback db migrations (course db migrations commands world).2).2.database
          left ∧
        Undoes applied rows
          (Command.rollback.steps db migrations (course db migrations commands world).2) left := by
  obtain ⟨applied, rows, begun, held, agree⟩ :=
    course_agrees distinct faithful spared commands List.nil_prefix empty .nothing
  rw [List.nil_append] at agree
  refine ⟨applied, rows, held, ⟨begun, agree.names, fun name => ?_, agree.alternating⟩, ?_, ?_⟩
  · rw [← agree.mem_iff, agree.latest]
  · intro next succeeded
    obtain ⟨reached, all, -, kept, agrees, complete⟩ :=
      migrate_agrees distinct faithful spared begun held agree
    rw [succeeded] at kept complete
    exact ⟨all, kept, complete rfl ▸ agrees.names⟩
  · obtain ⟨remaining, left, -, kept, -, undoes⟩ :=
      rollback_agrees distinct faithful spared begun held agree
    exact ⟨left, kept, undoes⟩

namespace Register

/-- A row of a small table of migrations. -/
structure Entry where
  number : Nat
  name : String
  time : DateTime

/-- A small table of migrations, and the number of the row that is made next. -/
structure State where
  entries : List Entry
  made : Nat

/-- The key of a row: its number, as text if it is too large. -/
def key (number : Nat) : Value :=
  if number < 9223372036854775808 then .int (Int64.ofNat number)
  else .text (String.ofList (List.replicate number '1'))

namespace Entry

def recorded (entry : Entry) : Recorded := ⟨key entry.number, entry.name⟩

def record (entry : Entry) : Record :=
  ((Keyed.empty.insert keyColumn (key entry.number)).insert nameColumn
    (.text entry.name)).insert timeColumn (.dateTime entry.time)

end Entry

/-- Answers the three statements on the table, and lets all else pass. -/
def executor : Executor State := fun statement _ state =>
  if statement.text = lookupText then
    match statement.params with
    | .text name :: _ =>
        (.ok ⟨(state.entries.find? fun entry => entry.name = name).toList.map fun entry =>
          .flat entry.record, 0, none⟩, state)
    | _ => (.ok .empty, state)
  else if statement.text = insertionText then
    match statement.params with
    | [.text name, .dateTime time] =>
        (.ok ⟨[], 1, some (.ofNat state.made)⟩,
          ⟨⟨state.made, name, time⟩ :: state.entries, state.made + 1⟩)
    | _ => (.ok .empty, state)
  else if statement.text = deletionText then
    match statement.params with
    | [given] =>
        (.ok ⟨[], 1, none⟩,
          ⟨state.entries.filter fun entry => (key entry.number).same given = false, state.made⟩)
    | _ => (.ok .empty, state)
  else (.ok .empty, state)

def database : Database State := ⟨executor, default, .standard, none⟩

/-- The rows of the table; the numbers of all are below that of the next. -/
def holds (state : State) (rows : Multiset Recorded) : Prop :=
  (state.entries : Multiset Entry).map Entry.recorded = rows ∧
    ∀ entry ∈ state.entries, entry.number < state.made

theorem isNull_key (number : Nat) : (key number).isNull = false := by
  unfold key
  split <;> rfl

theorem same_key (first second : Nat) :
    (key first).same (key second) = decide (first = second) := by
  unfold key
  split <;> rename_i small <;> split <;> rename_i low
  · have same : Int64.ofNat first = Int64.ofNat second ↔ first = second := by
      refine ⟨fun same => ?_, congrArg _⟩
      have numbers := congrArg Int64.toInt same
      rw [Int64.toInt_ofNat_of_lt small, Int64.toInt_ofNat_of_lt low] at numbers
      exact Int.ofNat.inj numbers
    rw [Value.same, ← decide_eq_decide.2 same]
    rfl
  · exact (decide_eq_false (by omega)).symm
  · exact (decide_eq_false (by omega)).symm
  · have same : String.ofList (List.replicate first '1') =
        String.ofList (List.replicate second '1') ↔ first = second := by
      rw [String.ofList_inj, List.replicate_left_inj]
    rw [Value.same, ← decide_eq_decide.2 same]
    rfl

theorem key_injective {first second : Nat} (same : key first = key second) : first = second := by
  have equal := same_key first second
  rw [same, same_key, decide_eq_true rfl] at equal
  exact of_decide_eq_true equal.symm

theorem get?_record (entry : Entry) :
    entry.record.get? keyColumn = some entry.recorded.id :=
  (Keyed.get?_insert_of_ne _ _ (by decide)).trans
    ((Keyed.get?_insert_of_ne _ _ (by decide)).trans (Keyed.get?_insert_self _ _ _))

theorem looksUp (rows : Multiset Recorded) (name : String) :
    database.Serves "find_one" (lookup name) (fun state => holds state rows)
      fun response next => holds next rows ∧ Shows rows name response.flatRows.head? where
  admitted _ := rfl
  answered := by
    rintro state ⟨rfl, below⟩
    refine ⟨_, state, by rfl, ⟨rfl, below⟩, ?_⟩
    cases found : state.entries.find? fun entry => entry.name = name with
    | none =>
        rintro row member
        obtain ⟨entry, present, rfl⟩ := Multiset.mem_map.1 member
        have differs := List.find?_eq_none.1 found entry present
        exact fun same => differs (decide_eq_true same)
    | some entry =>
        have same := List.find?_some found
        exact ⟨entry.recorded, Multiset.mem_map_of_mem _ (List.mem_of_find?_eq_some found),
          of_decide_eq_true same, get?_record entry⟩

theorem inserts (rows : Multiset Recorded) (name : String) (time : DateTime) :
    database.Serves "insert" (insertion name time) (fun state => holds state rows) fun _ next =>
      ∃ id : Value, id.isNull = false ∧ (∀ row ∈ rows, row.id ≠ id) ∧
        holds next (⟨id, name⟩ ::ₘ rows) where
  admitted _ := rfl
  answered := by
    rintro state ⟨rfl, below⟩
    refine ⟨_, ⟨⟨state.made, name, time⟩ :: state.entries, state.made + 1⟩, by rfl,
      key state.made, isNull_key _, ?_, rfl, ?_⟩
    · rintro row member same
      obtain ⟨entry, present, rfl⟩ := Multiset.mem_map.1 member
      exact absurd (key_injective same) (below entry present).ne
    · rintro entry member
      rcases List.mem_cons.1 member with rfl | member
      · exact Nat.lt_succ_self _
      · exact Nat.lt_succ_of_lt (below entry member)

theorem deletes (row : Recorded) (rows : Multiset Recorded)
    (identified : Identified (row ::ₘ rows)) :
    database.Serves "delete" (deletion row.id) (fun state => holds state (row ::ₘ rows))
      fun _ next => holds next rows where
  admitted _ := rfl
  answered := by
    rintro state ⟨held, below⟩
    obtain ⟨entry, present, rfl⟩ : ∃ entry ∈ state.entries, entry.recorded = row :=
      Multiset.mem_map.1 (held ▸ Multiset.mem_cons_self row rows)
    obtain ⟨others, split⟩ := Multiset.exists_cons_of_mem (Multiset.mem_coe.2 present)
    rw [split, Multiset.map_cons, Multiset.cons_inj_right] at held
    subst held
    have distinct := identified.distinct
    rw [Multiset.map_cons, Multiset.nodup_cons] at distinct
    have kept : Multiset.filter (fun other => (key other.number).same (key entry.number) = false)
        state.entries = others := by
      rw [split, Multiset.filter_cons_of_neg, Multiset.filter_eq_self]
      · intro other member
        rw [same_key]
        refine decide_eq_false fun equal => distinct.1 ?_
        exact Multiset.mem_map.2 ⟨other.recorded, Multiset.mem_map_of_mem _ member,
          congrArg key equal⟩
      · rw [same_key, decide_eq_true rfl]
        nofun
    refine ⟨_, ⟨state.entries.filter fun other =>
      (key other.number).same (key entry.number) = false, state.made⟩, by rfl, ?_,
      fun other member => below other (List.mem_of_mem_filter member)⟩
    rw [← Multiset.filter_coe, kept]

theorem faithful : Faithful database holds := ⟨looksUp, inserts, deletes⟩

/-- A table is made and dropped; a further change is not possible. -/
def migrations : List (Migration State) :=
  [⟨"CreateUsers",
      fun db => do let _ ← db.runStatement ⟨"CREATE TABLE \x60users\x60 (\x60id\x60 INT);", []⟩,
      fun db => do let _ ← db.runStatement ⟨"DROP TABLE \x60users\x60;", []⟩⟩,
    ⟨"AddIndexes", fun _ => throw (.execution (.reported "syntax error") none),
      fun _ => pure ()⟩]

theorem spared : ∀ migration ∈ migrations, migration.Spares database holds := by
  intro migration member world rows held
  simp only [migrations, List.mem_cons, List.not_mem_nil, or_false] at member
  rcases member with rfl | rfl
  · exact ⟨held, held⟩
  · exact ⟨held, held⟩

def fresh : World State := ⟨⟨[], 1⟩, .empty, default⟩

theorem empty : holds fresh.database 0 :=
  ⟨rfl, fun _ member => absurd member List.not_mem_nil⟩

/-- The table of users is made, dropped and made again. -/
def past : List Step × World State :=
  course database migrations [.migrate, .rollback, .migrate] fresh

end Register

/-- Each time the table of users is made, the step after it fails. -/
theorem records_account_for_steps_register :
    Register.past.1 = [⟨"CreateUsers", .up, true⟩, ⟨"AddIndexes", .up, false⟩,
        ⟨"CreateUsers", .down, true⟩, ⟨"CreateUsers", .up, true⟩, ⟨"AddIndexes", .up, false⟩] ∧
      ∃ applied rows, Register.holds Register.past.2.database rows ∧
        Accounted ["CreateUsers", "AddIndexes"] applied rows Register.past.1 ∧
        (∀ next, migrate Register.database Register.migrations Register.past.2 = (.ok (), next) →
          ∃ all : Multiset Recorded, Register.holds next.database all ∧
            all.map Recorded.name = (["CreateUsers", "AddIndexes"] : List String)) ∧
        ∃ left, Register.holds
            (rollback Register.database Register.migrations Register.past.2).2.database left ∧
          Undoes applied rows (Command.rollback.steps Register.database Register.migrations
            Register.past.2) left := by
  refine ⟨by decide +kernel, ?_⟩
  have names : Register.migrations.map Migration.name = ["CreateUsers", "AddIndexes"] := rfl
  have distinct : (Register.migrations.map Migration.name).Nodup := by decide
  have accounted := records_account_for_steps distinct Register.faithful Register.spared
    Register.empty [.migrate, .rollback, .migrate]
  rw [names] at accounted
  rw [Register.past]
  exact accounted

end Migration

end EntityMapper
