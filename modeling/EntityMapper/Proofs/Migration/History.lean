import EntityMapper.Migration.Basic
import EntityMapper.Proofs.Session.Calls
import Mathlib.Data.Multiset.MapFold

set_option autoImplicit false

/-! The table that records migrations. What is asked of a database is that its answers to the three
statements on this table are those of a table that keeps what it is given; all other statements it
may answer as it likes. -/

namespace EntityMapper

/-- Whenever the state is as described before, a statement passes the hooks and does not fail, and
its response and the next state are as described after. -/
structure Database.Serves {σ : Type} (db : Database σ) (tag : String) (statement : Statement)
    (before : σ → Prop) (after : Response → σ → Prop) : Prop where
  admitted : ∀ monitor, (Hook.beforeAll
    (Context.ofStatement statement.text statement.params.length (some tag) none) db.hooks
    monitor).1 = none
  answered : ∀ state, before state → ∃ response next,
    db.executor statement false state = (.ok response, next) ∧ after response next

theorem Database.Serves.imp {σ : Type} {db : Database σ} {tag : String} {statement : Statement}
    {before : σ → Prop} {after other : Response → σ → Prop}
    (serves : db.Serves tag statement before after)
    (weaker : ∀ response next, after response next → other response next) :
    db.Serves tag statement before other where
  admitted := serves.admitted
  answered state met := by
    obtain ⟨response, next, answered, described⟩ := serves.answered state met
    exact ⟨response, next, answered, weaker _ _ described⟩

theorem Database.Serves.run {σ : Type} {db : Database σ} {tag : String} {statement : Statement}
    {before : σ → Prop} {after : Response → σ → Prop}
    (serves : db.Serves tag statement before after) {world : World σ}
    (met : before world.database) :
    ∃ response next, db.run tag none statement false world = (.ok response, next) ∧
      after response next.database := by
  obtain ⟨next, ran, -, left⟩ :=
    db.run_admitted tag none statement false world (serves.admitted world.monitor)
  obtain ⟨response, state, answered, described⟩ := serves.answered world.database met
  rw [answered] at ran left
  exact ⟨response, next, ran, left ▸ described⟩

namespace Migration

/-- A row of the table that records migrations. -/
structure Recorded where
  id : Value
  name : String

/-- The rows have keys, and no two the same. -/
structure Identified (rows : Multiset Recorded) : Prop where
  known : ∀ row ∈ rows, row.id.isNull = false
  distinct : (rows.map Recorded.id).Nodup

namespace Identified

theorem zero : Identified 0 :=
  ⟨fun _ member => absurd member (Multiset.notMem_zero _), Multiset.nodup_zero⟩

theorem cons {row : Recorded} {rows : Multiset Recorded} (identified : Identified rows)
    (known : row.id.isNull = false) (fresh : ∀ other ∈ rows, other.id ≠ row.id) :
    Identified (row ::ₘ rows) := by
  refine ⟨fun other member => ?_, ?_⟩
  · rcases Multiset.mem_cons.1 member with rfl | member
    · exact known
    · exact identified.known other member
  · rw [Multiset.map_cons, Multiset.nodup_cons]
    refine ⟨fun taken => ?_, identified.distinct⟩
    obtain ⟨other, member, same⟩ := Multiset.mem_map.1 taken
    exact fresh other member same

theorem of_cons {row : Recorded} {rows : Multiset Recorded}
    (identified : Identified (row ::ₘ rows)) : Identified rows :=
  ⟨fun other member => identified.known other (Multiset.mem_cons_of_mem member),
    (Multiset.nodup_cons.1 (Multiset.map_cons Recorded.id row rows ▸ identified.distinct)).2⟩

end Identified

/-- What is shown for a name: a row that has it, and nothing only if none does. -/
def Shows (rows : Multiset Recorded) (name : String) : Option Record → Prop
  | none => ∀ row ∈ rows, row.name ≠ name
  | some record => ∃ row ∈ rows, row.name = name ∧ record.get? keyColumn = some row.id

def lookupText : String :=
  "SELECT * FROM \x60db_migration_history\x60 WHERE \x60migration_name\x60 = ? LIMIT ? OFFSET ?;"

def insertionText : String :=
  "INSERT INTO \x60db_migration_history\x60 (\x60migration_name\x60, \x60implemented_at\x60) " ++
    "VALUES (?, ?);"

def deletionText : String := "DELETE FROM \x60db_migration_history\x60 WHERE \x60id\x60 = ?;"

/-- Looks up the row of a migration. -/
def lookup (name : String) : Statement := ⟨lookupText, [.text name, .int 1, .int 0]⟩

/-- Records a migration. -/
def insertion (name : String) (time : DateTime) : Statement :=
  ⟨insertionText, [.text name, .dateTime time]⟩

/-- Removes the row of a key. -/
def deletion (key : Value) : Statement := ⟨deletionText, [key]⟩

/-- The database keeps a faithful table of migrations, where it is said of which states what rows
they hold: a name is looked up among the rows, a new row gets a fresh key, and the row of a key is
removed alone. None of this fails. -/
structure Faithful {σ : Type} (db : Database σ) (holds : σ → Multiset Recorded → Prop) :
    Prop where
  looksUp : ∀ rows name, db.Serves "find_one" (lookup name) (fun state => holds state rows)
    fun response next => holds next rows ∧ Shows rows name response.flatRows.head?
  inserts : ∀ rows name time, db.Serves "insert" (insertion name time)
    (fun state => holds state rows) fun _ next =>
      ∃ id : Value, id.isNull = false ∧ (∀ row ∈ rows, row.id ≠ id) ∧
        holds next (⟨id, name⟩ ::ₘ rows)
  deletes : ∀ row rows, Identified (row ::ₘ rows) → db.Serves "delete" (deletion row.id)
    (fun state => holds state (row ::ₘ rows)) fun _ next => holds next rows

theorem statement_lookup (name : String) :
    (Query.findOne (.named historyTable) (nameFilter name) default).statement =
      .ok (lookup name) := by
  rfl

theorem statement_insertion (name : String) (time : DateTime) :
    ∃ fragment : Fragment,
      Query.insert historyTable [(nameColumn, .text name), (timeColumn, .dateTime time)] =
        .ok fragment ∧ fragment.statement = .ok (insertion name time) := by
  simp only [Query.insert, Query.insertColumns, List.map, Fragment.joined]
  exact ⟨_, rfl, rfl⟩

theorem statement_deletion {key : Value} (known : key.isNull = false) :
    (Query.delete historyTable [.column (.bare keyColumn) (.equals key)]).statement =
      .ok (deletion key) := by
  have compared : Condition.equals key = .eq key := by
    rw [Condition.equals, known]
    rfl
  rw [compared]
  rfl

/-- A row that has a key is removed by it. -/
theorem recordFilter_of_key {record : Record} {key : Value} (name : String)
    (found : record.get? keyColumn = some key) (known : key.isNull = false) :
    recordFilter name record = [.column (.bare keyColumn) (.equals key)] := by
  simp only [recordFilter, found, known]
  rfl

namespace Faithful

variable {σ : Type} {db : Database σ} {holds : σ → Multiset Recorded → Prop}
  {rows : Multiset Recorded} {world : World σ}

theorem record? (faithful : Faithful db holds) (held : holds world.database rows)
    (name : String) :
    ∃ found next, Migration.record? db name world = (.ok found, next) ∧
      holds next.database rows ∧ Shows rows name found := by
  obtain ⟨response, next, ran, kept, shown⟩ := (faithful.looksUp rows name).run held
  refine ⟨response.flatRows.head?, next, ?_, kept, shown⟩
  rw [Migration.record?, Database.findOne, Session.query_bind, statement_lookup]
  exact Session.bind_of_ok ran

theorem insertInto (faithful : Faithful db holds) (held : holds world.database rows)
    (name : String) (time : DateTime) :
    ∃ response next id, db.insertInto historyTable
        [(nameColumn, .text name), (timeColumn, .dateTime time)] world = (.ok response, next) ∧
      id.isNull = false ∧ (∀ row ∈ rows, row.id ≠ id) ∧
      holds next.database (⟨id, name⟩ ::ₘ rows) := by
  obtain ⟨response, next, ran, id, known, fresh, kept⟩ :=
    (faithful.inserts rows name time).run held
  obtain ⟨fragment, built, written⟩ := statement_insertion name time
  refine ⟨response, next, id, ?_, known, fresh, kept⟩
  rw [Database.insertInto, Session.query_bind, built]
  refine (Session.query_bind _ _ _).trans ?_
  rw [written]
  exact ran

theorem deleteWhere (faithful : Faithful db holds) {row : Recorded}
    (identified : Identified (row ::ₘ rows)) (held : holds world.database (row ::ₘ rows))
    {record : Record} (found : record.get? keyColumn = some row.id) (name : String) :
    ∃ affected next, db.deleteWhere historyTable (recordFilter name record) world =
        (.ok affected, next) ∧ holds next.database rows := by
  have known := identified.known row (Multiset.mem_cons_self row rows)
  obtain ⟨response, next, ran, kept⟩ := (faithful.deletes row rows identified).run held
  refine ⟨response.affected, next, ?_, kept⟩
  rw [recordFilter_of_key name found known, Database.deleteWhere, Session.query_bind,
    Database.checkDeleteFilter, if_neg (by simp), Session.query_bind, statement_deletion known]
  exact Session.bind_of_ok ran

end Faithful

end Migration

end EntityMapper
