import EntityMapper.Proofs.Filter.Columns
import EntityMapper.Proofs.Plan.Population
import EntityMapper.Proofs.Session.Calls
import EntityMapper.Session.Entities

set_option autoImplicit false

/-! Removals where the settings ask for a filter. A filter without criteria is refused; what is
handed to the database has a condition, unless all criteria of the filter are groups without one. -/

namespace EntityMapper

open Fragment Outcome

namespace Query

theorem legible_delete (table : String) (filter : Filter) : (delete table filter).Legible := by
  have start : (words "DELETE FROM " ++ .name table).Legible :=
    (legible_words (by decide)).append (legible_name table) (Or.inl (by decide))
  exact Filter.legible_claused start filter (legible_words (by decide)) (by decide)

/-- The words of a removal: the table, and the condition that its filter leaves. -/
theorem tokens_delete (table : String) (filter : Filter) :
    (delete table filter).tokens =
      [Token.word "DELETE", .word "FROM", .name table] ++ (Filter.clause filter).tokens ++
        [Token.mark ';'] := by
  have start : (words "DELETE FROM ").tokens = [.word "DELETE", .word "FROM"] := rfl
  have finish : (words ";").tokens = [.mark ';'] := rfl
  rw [delete, tokens_append, tokens_append, tokens_append, start, finish, tokens_name]
  rfl

end Query

namespace Filter

theorem tokens_clause_of_occupied {filter : Filter} (occupied : conditions filter ≠ []) :
    (clause filter).tokens = .word "WHERE" :: (joined " AND " (topTerms filter)).tokens := by
  rw [clause_of_occupied occupied, tokens_append]
  rfl

end Filter

/-- Something that is removed: rows of a table, or entities of a type. -/
inductive Removal where
  | rows (table : String)
  | entities (entity : String)

namespace Removal

variable {σ : Type}

/-- Removes what passes a filter. -/
def run (db : Database σ) (filter : Filter) : Removal → Session σ UInt64
  | .rows table => db.deleteWhere table filter
  | .entities entity => db.removeAll entity filter

/-- The table that loses rows, and the filter on its columns. -/
def target (registry : Registry) (filter : Filter) :
    Removal → Except DefinitionFault (String × Filter)
  | .rows table => .ok (table, filter)
  | .entities entity => (registry.find entity).map fun schema =>
      (schema.table, EntityQuery.storageFilter schema filter)

/-- A call removes rows of a table, under a condition if the filter has one at any depth. Without
one the filter has criteria all the same. -/
def Written (table : String) (filter : Filter) (call : Call) : Prop :=
  ∃ (statement : Statement) (condition : List (Token Value)), call = statement.call false ∧
    statement.tokens? =
      some ([.word "DELETE", .word "FROM", .name table] ++ condition ++ [.mark ';']) ∧
    (Filter.conditions filter ≠ [] → condition.head? = some (.word "WHERE")) ∧
    (Filter.conditions filter = [] → condition = [] ∧ filter ≠ [])

end Removal

namespace Database

variable {σ : Type}

/-- The steps that all removals share, with the filter that is asked for and the one on columns. -/
def erase (db : Database σ) (entity : Option String) (table : String) (filter columns : Filter) :
    Session σ UInt64 := do
  db.checkDeleteFilter table filter
  let statement ← (Query.delete table columns).statement
  return (← db.run "delete" entity statement false).affected

theorem deleteWhere_eq (db : Database σ) (table : String) (filter : Filter) :
    db.deleteWhere table filter = db.erase none table filter filter := rfl

theorem removeAll_eq (db : Database σ) (entity : String) (filter : Filter) :
    db.removeAll entity filter = (do
      let schema ← db.registry.find entity
      db.erase (some entity) schema.table filter (EntityQuery.storageFilter schema filter)) := rfl

theorem erase_refused {db : Database σ} (guarded : db.config.requiresDeleteFilter = true)
    (entity : Option String) (table : String) (columns : Filter) (world : World σ) :
    db.erase entity table [] columns world =
      (.error (.query (.unfilteredDelete table)), world) := by
  have refused : db.checkDeleteFilter table [] = .error (.unfilteredDelete table) := by
    rw [checkDeleteFilter, guarded]
    rfl
  rw [erase, Session.query_bind, refused]

theorem erase_hands (db : Database σ) (entity : Option String) (table : String)
    (filter columns : Filter) (world : World σ) :
    world.Hands (Query.delete table columns).HandedAs
      (db.erase entity table filter columns world).2 := by
  rw [erase, Session.query_bind]
  cases db.checkDeleteFilter table filter with
  | error fault => exact Or.inl .rfl
  | ok passed => exact db.change_hands "delete" entity (Query.delete table columns) world

theorem erase_sends (db : Database σ) (entity : Option String) (table : String)
    {filter columns : Filter} (asked : filter ≠ []) {statement : Statement}
    (written : (Query.delete table columns).statement = .ok statement) (world : World σ) :
    world.SendsOrAborts statement false (db.erase entity table filter columns world) := by
  have passed : db.checkDeleteFilter table filter = .ok () := by
    rw [checkDeleteFilter, List.isEmpty_eq_false_iff.2 asked, Bool.and_false,
      if_neg Bool.false_ne_true]
  rw [erase, Session.query_bind, passed]
  exact db.change_sends "delete" entity written world

theorem guarded_erase {db : Database σ} (guarded : db.config.requiresDeleteFilter = true)
    (entity : Option String) (table : String) {filter columns : Filter}
    (same : Filter.conditions columns = [] ↔ Filter.conditions filter = []) (world : World σ) :
    world.Hands (Removal.Written table filter) (db.erase entity table filter columns world).2 := by
  by_cases vacant : filter = []
  · rw [vacant, erase_refused guarded]
    exact Or.inl .rfl
  · refine (db.erase_hands entity table filter columns world).imp fun call => ?_
    rintro ⟨statement, written, rfl⟩
    refine ⟨statement, (Filter.clause columns).tokens, rfl, ?_, ?_, ?_⟩
    · rw [← Query.tokens_delete]
      exact (Query.legible_delete table columns).tokens?_statement written
    · intro occupied
      rw [Filter.tokens_clause_of_occupied fun nothing => occupied (same.1 nothing)]
      rfl
    · intro nothing
      rw [Filter.clause_of_vacant (same.2 nothing)]
      exact ⟨rfl, vacant⟩

end Database

namespace EntityQuery

theorem conditions_storageFilter (schema : EntitySchema) (filter : Filter) :
    Filter.conditions (storageFilter schema filter) = [] ↔ Filter.conditions filter = [] := by
  rw [storageFilter, Filter.conditions_mapColumns, List.map_eq_nil_iff]

end EntityQuery

namespace Removal

variable {σ : Type}

/-- Where the settings ask for a filter, a removal without criteria fails and changes nothing. All
other removals hand the database a statement with a condition, or nothing; only for a filter with
criteria, none of which has a condition at any depth, the condition is missing. Whatever the
criteria, what they come to is handed over if it can be written, unless a hook refuses it. -/
theorem guarded_removal {db : Database σ} (guarded : db.config.requiresDeleteFilter = true)
    (removal : Removal) (filter : Filter) (world : World σ) :
    (filter = [] → ∃ error, removal.run db filter world = (.error error, world) ∧
      ∀ table columns, removal.target db.registry filter = .ok (table, columns) →
        error = .query (.unfilteredDelete table)) ∧
    world.Hands
      (fun call => ∃ table columns, removal.target db.registry filter = .ok (table, columns) ∧
        Written table filter call)
      (removal.run db filter world).2 ∧
    (filter ≠ [] → ∀ table columns statement,
      removal.target db.registry filter = .ok (table, columns) →
      (Query.delete table columns).statement = .ok statement →
        world.SendsOrAborts statement false (removal.run db filter world)) := by
  cases removal with
  | rows table =>
      rw [run, target, Database.deleteWhere_eq]
      refine ⟨?_, (db.guarded_erase guarded none table Iff.rfl world).imp
        fun call written => ⟨table, filter, rfl, written⟩, ?_⟩
      · rintro rfl
        refine ⟨_, db.erase_refused guarded none table [] world, fun other columns named => ?_⟩
        cases named
        rfl
      · intro asked other columns statement named written
        cases named
        exact db.erase_sends none table asked written world
  | entities entity =>
      rw [run, target, Database.removeAll_eq, Session.definition_bind]
      cases found : db.registry.find entity with
      | error fault => exact ⟨fun _ => ⟨_, rfl, nofun⟩, Or.inl .rfl, nofun⟩
      | ok schema =>
          refine ⟨?_, (db.guarded_erase guarded (some entity) schema.table
            (EntityQuery.conditions_storageFilter schema filter) world).imp
            fun call written => ⟨schema.table, _, rfl, written⟩, ?_⟩
          · rintro rfl
            refine ⟨_, db.erase_refused guarded _ _ _ world, fun other columns named => ?_⟩
            cases named
            rfl
          · intro asked other columns statement named written
            cases named
            exact db.erase_sends (some entity) schema.table asked written world

/-- Authors are not removed without criteria, and the library is left as it is; those of a name
are removed under a condition. -/
theorem guarded_removal_author :
    let library : Database Unit := .mute EntityQuery.Catalogue.registry
    let named : Filter := [.column (.bare "name") (.eq (.text "Ada"))]
    let statement : Statement :=
      ⟨"DELETE FROM \x60authors\x60 WHERE \x60name\x60 = ?;", [.text "Ada"]⟩
    library.config.requiresDeleteFilter = true ∧
      (∃ error, (Removal.entities "Author").run library [] .fresh = (.error error, .fresh)) ∧
      World.fresh.Hands
        (fun call => ∃ table columns,
          (Removal.entities "Author").target library.registry named = .ok (table, columns) ∧
            Written table named call)
        ((Removal.entities "Author").run library named .fresh).2 ∧
      World.fresh.SendsOrAborts statement false
        ((Removal.entities "Author").run library named .fresh) ∧
      ((Removal.entities "Author").run library named .fresh).2.monitor.calls =
        [statement.call false] := by
  intro library named statement
  have guarded : library.config.requiresDeleteFilter = true := rfl
  obtain ⟨error, refused, -⟩ := (guarded_removal guarded (.entities "Author") [] .fresh).1 rfl
  obtain ⟨-, hands, sends⟩ := guarded_removal guarded (.entities "Author") named .fresh
  have sent := sends (List.cons_ne_nil _ _) "authors" named statement rfl rfl
  exact ⟨guarded, ⟨error, refused⟩, hands, sent, rfl⟩

/-- Groups without a condition count as criteria, and nothing is left of them in the statement: all
rows are removed. -/
theorem unconditional_removal :
    let library : Database Unit := .mute EntityQuery.Catalogue.registry
    library.config.requiresDeleteFilter = true ∧
      Filter.conditions [.conjunction []] = [] ∧
      Filter.conditions [.disjunction [[], [.conjunction [[]]]]] = [] ∧
      (library.deleteWhere "authors" [.conjunction []] .fresh).1 = .ok 0 ∧
      (library.deleteWhere "authors" [.conjunction []] .fresh).2.monitor.calls =
        [("DELETE FROM \x60authors\x60;", [], false)] ∧
      (library.removeAll "Author" [.disjunction [[], [.conjunction [[]]]]] .fresh).1 = .ok 0 ∧
      (library.removeAll "Author" [.disjunction [[], [.conjunction [[]]]]] .fresh).2.monitor.calls =
        [("DELETE FROM \x60authors\x60;", [], false)] := by
  exact ⟨rfl, rfl, rfl, rfl, rfl, rfl, rfl⟩

end Removal

end EntityMapper
