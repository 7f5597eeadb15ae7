import EntityMapper.Proofs.Plan.EntityQuery
import EntityMapper.Proofs.Session.Removal
import EntityMapper.Proofs.Statement.Structure
import EntityMapper.Proofs.Store.Query

set_option autoImplicit false

/-! The clause by which operations on entities select rows. A count, a change and a removal of all
entities that pass a filter have one clause; a find without associations has it too, as long as the
filter does not name fields of the type by its table. -/

namespace EntityMapper

open Fragment Outcome

/-- A statement is a clause between what stands before and behind it, with the values of all three
in this order. -/
def Statement.Carries (statement : Statement) (before clause after : Fragment) : Prop :=
  statement = ⟨(before ++ clause ++ after).text, (before ++ clause ++ after).params⟩

/-- A call hands over a statement that carries a clause. -/
def Call.Carries (call : Call) (before clause after : Fragment) : Prop :=
  ∃ statement : Statement, call = statement.call false ∧ statement.Carries before clause after

namespace EntityQuery

/-- The clause of counts, changes and removals. -/
def clause (schema : EntitySchema) (filter : Filter) : Fragment :=
  Filter.clause (storageFilter schema filter)

/-- The clause of finds that attach nothing. -/
def findClause (schema : EntitySchema) (filter : Filter) : Fragment :=
  Filter.clause (Filter.mapColumns (Resolution.start schema).mapColumn filter)

/-- The column of a condition, as counts, changes and removals write it. -/
def storageName (schema : EntitySchema) (column : ColumnRef) : String :=
  match column.table with
  | none => schema.storageName column.column
  | some _ => column.column

/-- The column of a condition, as finds that attach nothing write it. -/
def findName (schema : EntitySchema) (column : ColumnRef) : String :=
  match column.table with
  | none => schema.storageName column.column
  | some table =>
      if schema.table = table then schema.storageName column.column else column.column

theorem storageFilter_eq (schema : EntitySchema) (filter : Filter) :
    storageFilter schema filter =
      Filter.mapColumns (Filter.respelled (storageName schema)) filter := by
  refine Filter.mapColumns_congr filter fun entry _ => ?_
  obtain ⟨⟨_ | table, column⟩, condition⟩ := entry <;> rfl

theorem mapColumn_start (schema : EntitySchema) :
    (Resolution.start schema).mapColumn = Filter.respelled (findName schema) := by
  funext reference
  obtain ⟨_ | table, column⟩ := reference
  · rfl
  · have levels : (Resolution.start schema).plan.levels = [.root schema] := rfl
    by_cases own : schema.table = table
    · simp [Resolution.mapColumn, levels, Level.root, Level.column, ColumnRef.qualified,
        Filter.respelled, findName, own]
    · simp [Resolution.mapColumn, levels, Level.root, Filter.respelled, findName, own]

/-- A find has the clause of a count iff no column of the filter, at any depth, names a field by
the table of the type that is stored under another name. -/
theorem text_findClause_eq_iff (schema : EntitySchema) (filter : Filter) :
    (findClause schema filter).text = (clause schema filter).text ↔
      ∀ entry ∈ Filter.conditions filter, entry.1.table = some schema.table →
        schema.storageName entry.1.column = entry.1.column := by
  rw [findClause, clause, mapColumn_start, storageFilter_eq, Filter.text_clause_eq_iff]
  refine forall₂_congr fun entry _ => ?_
  obtain ⟨⟨_ | table, column⟩, condition⟩ := entry
  · simp [findName, storageName]
  · by_cases own : schema.table = table
    · simp [findName, storageName, own]
    · have other : ¬ table = schema.table := fun same => own same.symm
      simp [findName, storageName, own, other]

theorem params_findClause (schema : EntitySchema) (filter : Filter) :
    (findClause schema filter).params = (clause schema filter).params := by
  rw [findClause, clause, storageFilter, Filter.params_clause, Filter.params_clause,
    Filter.operands_mapColumns, Filter.operands_mapColumns]

/-- What a count has before its clause. -/
def counting (schema : EntitySchema) : Fragment :=
  words "SELECT COUNT(" ++ words "*" ++ words ") AS " ++ .name Query.totalName ++
    Query.source (.named schema.table)

theorem carries_count {registry : Registry} {entity : String} {schema : EntitySchema}
    {filter : Filter} {statement : Statement} (found : registry.find entity = .ok schema)
    (success : count registry entity filter = .ok statement) :
    statement.Carries (counting schema) (clause schema filter) (words ";") := by
  obtain ⟨other, same, written⟩ := count_eq_ok success
  rw [found] at same
  obtain rfl := Except.ok.inj same
  have whole : Query.count (.named schema.table) (storageFilter schema filter) default =
      counting schema ++ clause schema filter ++ words ";" := by
    change counting schema ++ empty ++ clause schema filter ++ empty ++ words ";" = _
    rw [append_empty, append_empty]
  rw [(statement_eq_ok written).2, whole, Statement.Carries]

theorem resolution_of_nothing {registry : Registry} {schema : EntitySchema}
    {resolution : Resolution}
    (resolved : Resolution.ofPopulates registry schema [] = .ok resolution) :
    resolution = .start schema :=
  Resolution.followAll_nil resolved

/-- What a find that attaches nothing has behind its clause. -/
def pagedBy (config : Config) (schema : EntitySchema) (options : EntityOptions) (single : Bool) :
    Fragment :=
  groupByClause (options.groupBy.map (Resolution.start schema).mapColumn) ++
    OrderBy.clause (order config (.start schema) options.orderBy) ++
    (page config (Resolution.start schema).plan single options.page).clause ++ words ";"

theorem carries_find {registry : Registry} {config : Config} {entity : String}
    {schema : EntitySchema} {filter : Filter} {options : EntityOptions} {single : Bool}
    {query : EntityQuery} (found : registry.find entity = .ok schema)
    (alone : options.populate = [])
    (success : build registry config entity filter options single = .ok query) :
    query.statement.Carries (words "SELECT *" ++ Query.source (.named schema.table))
      (findClause schema filter) (pagedBy config schema options single) := by
  obtain ⟨root, resolution, other, resolved, written, -⟩ := build_eq_ok success
  rw [found] at other
  obtain rfl := Except.ok.inj other
  rw [alone] at resolved
  obtain rfl := resolution_of_nothing resolved
  have whole : fragment config (.start schema) filter options single =
      words "SELECT *" ++ Query.source (.named schema.table) ++ findClause schema filter ++
        pagedBy config schema options single := by
    change words "SELECT *" ++ Query.source (.named schema.table) ++ empty ++
      findClause schema filter ++ groupByClause _ ++ OrderBy.clause _ ++ Page.clause _ ++
      words ";" = _
    simp only [pagedBy, append_empty, append_assoc]
  rw [(statement_eq_ok written).2, whole, Statement.Carries]

end EntityQuery

namespace Database

open EntityQuery

variable {σ : Type}

theorem removeAll_carries {db : Database σ} {entity : String} {schema : EntitySchema}
    (found : db.registry.find entity = .ok schema) (filter : Filter) (world : World σ) :
    world.Hands
      (fun call => call.Carries (words "DELETE FROM " ++ .name schema.table)
        (clause schema filter) (words ";"))
      (db.removeAll entity filter world).2 := by
  rw [removeAll_eq, Session.definition_bind, found]
  refine (db.erase_hands (some entity) schema.table filter _ world).imp fun call => ?_
  rintro ⟨statement, written, rfl⟩
  exact ⟨statement, rfl, (statement_eq_ok written).2⟩

theorem updateAll_carries {db : Database σ} {entity : String} {schema : EntitySchema}
    (found : db.registry.find entity = .ok schema) (values : List (String × Value))
    (filter : Filter) (world : World σ) :
    world.Hands
      (fun call => ∃ columns : List (String × Value), call.Carries
        (words "UPDATE " ++ .name schema.table ++ listed " SET " (columns.map Query.assignment))
        (clause schema filter) (words ";"))
      (db.updateAll entity values filter world).2 := by
  rw [updateAll, Session.definition_bind, found]
  dsimp only
  rw [Session.query_bind]
  cases checkedValues schema entity values .empty [] with
  | error fault => exact Or.inl .rfl
  | ok checked =>
      obtain ⟨errors, columns⟩ := checked
      cases invalid : errors.isEmpty with
      | false =>
          dsimp only
          rw [invalid]
          exact Or.inl .rfl
      | true =>
          dsimp only
          rw [invalid, Bool.not_true, if_neg Bool.false_ne_true, Session.query_bind]
          cases built : Query.update schema.table columns (storageFilter schema filter) with
          | error fault => exact Or.inl .rfl
          | ok fragment =>
              refine (db.change_hands "update" (some entity) fragment world).imp fun call => ?_
              rintro ⟨statement, written, rfl⟩
              refine ⟨columns, statement, rfl, ?_⟩
              rw [(statement_eq_ok written).2, Query.update_eq_ok built]
              rfl

end Database

namespace EntityQuery

namespace Roll

private def key : Column := ⟨"id", "id", .int, none, none, none, false, true, false, false, []⟩

private def fullName : Column := { Column.plain "name" .varchar with storage := "full_name" }

def description : EntityDescription := ⟨"Author", "authors", [key, fullName], []⟩

def author : EntitySchema :=
  ⟨"Author", "authors", [key, fullName], [], key, List.mem_cons_self⟩

/-- Authors whose names are stored under another name than their field. -/
def registry : Registry := ⟨Keyed.ofList [("Author", author)]⟩

end Roll

/-- Whatever the filter, a count and a change and a removal of all entities that pass it select rows
by one clause, with the same values. A find that attaches nothing selects by the same clause iff no
column of the filter, at any depth, names a field by the table of the type that is stored under
another name; the values are the same in any case. -/
theorem one_clause {registry : Registry} {entity : String} {schema : EntitySchema}
    (found : registry.find entity = .ok schema) (filter : Filter) :
    (∀ statement, count registry entity filter = .ok statement →
      statement.Carries (counting schema) (clause schema filter) (words ";")) ∧
    (∀ {σ : Type} (db : Database σ), db.registry = registry → ∀ world : World σ,
      world.Hands
        (fun call => call.Carries (words "DELETE FROM " ++ .name schema.table)
          (clause schema filter) (words ";"))
        (db.removeAll entity filter world).2 ∧
      ∀ values, world.Hands
        (fun call => ∃ columns : List (String × Value), call.Carries
          (words "UPDATE " ++ .name schema.table ++ listed " SET " (columns.map Query.assignment))
          (clause schema filter) (words ";"))
        (db.updateAll entity values filter world).2) ∧
    (∀ config options single query, options.populate = [] →
      build registry config entity filter options single = .ok query →
      query.statement.Carries (words "SELECT *" ++ Query.source (.named schema.table))
        (findClause schema filter) (pagedBy config schema options single)) ∧
    ((findClause schema filter).text = (clause schema filter).text ↔
      ∀ entry ∈ Filter.conditions filter, entry.1.table = some schema.table →
        schema.storageName entry.1.column = entry.1.column) ∧
    (findClause schema filter).params = (clause schema filter).params := by
  refine ⟨fun statement => carries_count found, ?_, ?_, text_findClause_eq_iff schema filter,
    params_findClause schema filter⟩
  · rintro σ db rfl world
    exact ⟨db.removeAll_carries found filter world,
      fun values => db.updateAll_carries found values filter world⟩
  · exact fun config options single query alone => carries_find found alone

/-- Authors of a name, or those behind a key that is named by its table: a find selects them by the
clause of a removal. -/
theorem one_clause_roll :
    let filter : Filter := [.disjunction [[.column (.bare "name") (.eq (.text "Ada"))],
      [.column (.qualified "authors" "id") (.gt (.int 3))]]]
    Roll.registry.find "Author" = .ok Roll.author ∧
      (findClause Roll.author filter).text = (clause Roll.author filter).text ∧
      (World.fresh.Hands
        (fun call => call.Carries (words "DELETE FROM " ++ .name "authors")
          (clause Roll.author filter) (words ";"))
        ((Database.mute Roll.registry).removeAll "Author" filter .fresh).2) ∧
      ((Database.mute Roll.registry).removeAll "Author" filter .fresh).2.monitor.calls =
        [("DELETE FROM \x60authors\x60 WHERE (\x60full_name\x60 = ?) OR " ++
          "(\x60authors\x60.\x60id\x60 > ?);", [.text "Ada", .int 3], false)] := by
  intro filter
  have found : Roll.registry.find "Author" = .ok Roll.author := rfl
  obtain ⟨-, changes, -, alike, -⟩ := one_clause found filter
  refine ⟨found, alike.2 ?_, (changes (.mute Roll.registry) rfl .fresh).1, rfl⟩
  intro entry member own
  simp only [filter, Filter.conditions, Filter.criterionConditions, Filter.groupConditions,
    List.append_nil, List.singleton_append, List.mem_cons, List.not_mem_nil, or_false] at member
  rcases member with rfl | rfl
  · cases own
  · rfl

/-- A field that is named by the table of its type, and is stored under another name: the find
selects by the column that stores it, the others by a column of the name of the field. -/
theorem split_clauses :
    let filter : Filter := [.column (.qualified "authors" "name") (.eq (.text "Ada"))]
    Registry.ofDescriptions [Roll.description] = .ok Roll.registry ∧
      (find Roll.registry .standard "Author" filter default).map EntityQuery.statement =
        .ok ⟨"SELECT * FROM \x60authors\x60 WHERE \x60authors\x60.\x60full_name\x60 = ?" ++
          " LIMIT ? OFFSET ?;", [.text "Ada", .int 1000, .int 0]⟩ ∧
      count Roll.registry "Author" filter =
        .ok ⟨"SELECT COUNT(*) AS \x60total\x60 FROM \x60authors\x60" ++
          " WHERE \x60authors\x60.\x60name\x60 = ?;", [.text "Ada"]⟩ ∧
      ((Database.mute Roll.registry).removeAll "Author" filter .fresh).2.monitor.calls =
        [("DELETE FROM \x60authors\x60 WHERE \x60authors\x60.\x60name\x60 = ?;",
          [.text "Ada"], false)] ∧
      ((Database.mute Roll.registry).updateAll "Author" [("name", .null)] filter
          .fresh).2.monitor.calls =
        [("UPDATE \x60authors\x60 SET \x60full_name\x60 = ?" ++
          " WHERE \x60authors\x60.\x60name\x60 = ?;", [.null, .text "Ada"], false)] :=
  ⟨rfl, rfl, rfl, rfl, rfl⟩

end EntityQuery

end EntityMapper
