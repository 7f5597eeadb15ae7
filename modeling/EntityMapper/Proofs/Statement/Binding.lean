import EntityMapper.Proofs.Filter.Operands
import EntityMapper.Proofs.Plan.EntityQuery
import EntityMapper.Proofs.Statement.Request
import Mathlib.Data.List.Basic

set_option autoImplicit false

/-! Every statement binds the values of its request, in the order of the clauses, and has one
placeholder for each of them. -/

namespace EntityMapper

open Fragment Outcome

theorem SelectItem.params_fragment (item : SelectItem) : item.fragment.params = [] := by
  obtain ⟨column, alias?, table, aggregate⟩ := item
  cases alias? <;> cases aggregate <;> simp [SelectItem.fragment]

theorem SelectItem.plain_fragment (item : SelectItem) : item.fragment.Plain := by
  obtain ⟨column, alias?, table, aggregate⟩ := item
  have word (aggregate : Aggregate) : Placeholder.Unmarked aggregate.word.toList := by
    cases aggregate <;> decide
  cases alias? <;> cases aggregate <;>
    simp only [SelectItem.fragment, plain_append, plain_words, plain_name, plain_column, word,
      true_and, and_true] <;> decide

theorem SelectItem.params_clause (items : List SelectItem) : (clause items).params = [] := by
  rw [clause]
  split
  · rfl
  · simp [SelectItem.params_fragment]

theorem SelectItem.plain_clause (items : List SelectItem) : (clause items).Plain := by
  rw [clause]
  split
  · rw [plain_words]
    decide
  · rw [plain_append, plain_words]
    refine ⟨by decide, plain_joined (by decide) fun fragment member => ?_⟩
    obtain ⟨item, -, rfl⟩ := List.mem_map.1 member
    exact item.plain_fragment

theorem Join.params_clause (joins : List Join) : (clause joins).params = [] := by
  simp [clause, Join.fragment]

theorem Join.plain_clause (joins : List Join) : (clause joins).Plain := by
  refine plain_joined (by decide) fun fragment member => ?_
  obtain ⟨⟨kind, table, left, right⟩, -, rfl⟩ := List.mem_map.1 member
  have word : Placeholder.Unmarked kind.word.toList := by
    cases kind <;> decide
  simp only [Join.fragment, plain_append, plain_words, plain_table, plain_column, word, and_true]
  decide

theorem OrderBy.params_clause (entries : List OrderBy) : (clause entries).params = [] := by
  simp [clause, OrderBy.fragment]

theorem OrderBy.plain_clause (entries : List OrderBy) : (clause entries).Plain := by
  refine plain_listed (by decide) fun fragment member => ?_
  obtain ⟨⟨column, direction⟩, -, rfl⟩ := List.mem_map.1 member
  have word : Placeholder.Unmarked direction.word.toList := by
    cases direction <;> decide
  simp only [OrderBy.fragment, plain_append, plain_words, plain_column, word, and_true, true_and]
  decide

theorem params_groupByClause (columns : List ColumnRef) : (groupByClause columns).params = [] := by
  simp [groupByClause]

theorem plain_groupByClause (columns : List ColumnRef) : (groupByClause columns).Plain := by
  refine plain_listed (by decide) fun fragment member => ?_
  obtain ⟨column, -, rfl⟩ := List.mem_map.1 member
  exact plain_column column

theorem Page.params_clause (page : Page) : page.clause.params = Request.pageValues page := rfl

theorem Page.plain_clause (page : Page) : page.clause.Plain := by
  simp only [clause, plain_append, plain_words, plain_bind, and_true]
  decide

namespace Query

theorem params_source (table : TableRef) : (source table).params = [] := by
  simp [source]

theorem plain_source (table : TableRef) : (source table).Plain := by
  rw [source, plain_append, plain_words]
  exact ⟨by decide, plain_table table⟩

theorem params_paged (table : TableRef) (filter : Filter) (options : FindOptions) (page : Page) :
    (paged table filter options page).params =
      Filter.operands filter ++ Request.pageValues page := by
  simp only [paged, params_append, SelectItem.params_clause, params_source, Join.params_clause,
    Filter.params_clause, params_groupByClause, OrderBy.params_clause, Page.params_clause,
    params_words, List.nil_append, List.append_nil]

theorem plain_paged (table : TableRef) (filter : Filter) (options : FindOptions) (page : Page) :
    (paged table filter options page).Plain := by
  simp only [paged, plain_append, SelectItem.plain_clause, plain_source, Join.plain_clause,
    Filter.plain_clause, plain_groupByClause, OrderBy.plain_clause, Page.plain_clause,
    plain_words, true_and]
  decide

theorem params_counted (column : Option ColumnRef) : (counted column).params = [] := by
  cases column <;> simp [counted]

theorem plain_counted (column : Option ColumnRef) : (counted column).Plain := by
  cases column with
  | none =>
      rw [counted, plain_words]
      decide
  | some column => exact plain_column column

theorem params_count (table : TableRef) (filter : Filter) (options : CountOptions) :
    (count table filter options).params = Filter.operands filter := by
  simp only [count, params_append, params_words, params_counted, params_name, params_source,
    Join.params_clause, Filter.params_clause, params_groupByClause, List.nil_append,
    List.append_nil]

theorem plain_count (table : TableRef) (filter : Filter) (options : CountOptions) :
    (count table filter options).Plain := by
  simp only [count, plain_append, plain_words, plain_counted, plain_name, plain_source,
    Join.plain_clause, Filter.plain_clause, plain_groupByClause, and_true]
  decide

theorem params_insertColumns (values : List (String × Value)) :
    (insertColumns values).params = [] := by
  rw [insertColumns, params_joined, List.flatMap_map, List.flatMap_eq_nil_iff]
  exact fun entry _ => params_name entry.1

theorem params_insertValues (values : List (String × Value)) :
    (values.map fun entry => Fragment.bind entry.2).flatMap params = values.map Prod.snd := by
  rw [List.flatMap_map, List.map_eq_flatMap]
  rfl

theorem params_assignments (values : List (String × Value)) :
    (values.map assignment).flatMap params = values.map Prod.snd := by
  rw [List.flatMap_map, List.map_eq_flatMap]
  rfl

theorem binds_insert {table : String} {values : List (String × Value)} {fragment : Fragment}
    (success : insert table values = .ok fragment) :
    fragment.Plain ∧ fragment.params = values.map Prod.snd := by
  obtain ⟨columns, checking, success⟩ := bind_eq_ok success
  obtain ⟨-, rfl⟩ := checked_eq_ok checking
  split at success
  · cases success
  obtain ⟨-, rfl⟩ := checked_eq_ok success
  have names : (insertColumns values).Plain := by
    refine plain_joined (by decide) fun fragment member => ?_
    obtain ⟨entry, -, rfl⟩ := List.mem_map.1 member
    exact plain_name _
  have binds : (joined ", " (values.map fun entry => bind entry.2)).Plain := by
    refine plain_joined (by decide) fun fragment member => ?_
    obtain ⟨entry, -, rfl⟩ := List.mem_map.1 member
    exact plain_bind _
  constructor
  · simp only [plain_append, plain_words, plain_name, names, binds, and_true]
    decide
  · simp [params_insertColumns, params_insertValues]

theorem binds_update {table : String} {values : List (String × Value)} {filter : Filter}
    {fragment : Fragment} (success : update table values filter = .ok fragment) :
    fragment.Plain ∧ fragment.params = values.map Prod.snd ++ Filter.operands filter := by
  obtain ⟨start, checking, success⟩ := bind_eq_ok success
  obtain ⟨-, rfl⟩ := checked_eq_ok checking
  split at success
  · cases success
  obtain ⟨-, rfl⟩ := checked_eq_ok success
  have assignments : (listed " SET " (values.map assignment)).Plain := by
    refine plain_listed (by decide) fun fragment member => ?_
    obtain ⟨entry, -, rfl⟩ := List.mem_map.1 member
    simp only [assignment, plain_append, plain_name, plain_words, plain_bind, true_and, and_true]
    decide
  constructor
  · simp only [plain_append, plain_words, plain_name, assignments, Filter.plain_clause, and_true]
    decide
  · simp [params_assignments]

theorem params_delete (table : String) (filter : Filter) :
    (delete table filter).params = Filter.operands filter := by
  simp only [delete, params_append, params_words, params_name, Filter.params_clause,
    List.nil_append, List.append_nil]

theorem plain_delete (table : String) (filter : Filter) : (delete table filter).Plain := by
  simp only [delete, plain_append, plain_words, plain_name, Filter.plain_clause, and_true]
  decide

end Query

namespace Table

theorem unmarked_natural (n : Nat) : Placeholder.Unmarked (Text.natural n).toList := by
  intro c member
  rw [Text.natural, String.toList_ofList] at member
  have digit := Nat.isDigit_of_mem_toDigits (by decide) (by decide) member
  constructor <;> rintro rfl <;> revert digit <;> decide

theorem unmarked_sizeText (type : DataType) (spec : ColumnSpec) :
    Placeholder.Unmarked (spec.sizeText type).toList := by
  cases type with
  | decimal =>
      simp only [ColumnSpec.sizeText, String.toList_append, Placeholder.unmarked_append]
      exact ⟨⟨⟨⟨by decide, unmarked_natural _⟩, by decide⟩, unmarked_natural _⟩, by decide⟩
  | varchar =>
      simp only [ColumnSpec.sizeText, String.toList_append, Placeholder.unmarked_append]
      exact ⟨⟨by decide, unmarked_natural _⟩, by decide⟩
  | _ => exact fun c member => absurd member List.not_mem_nil

theorem params_spec (type : DataType) (spec : ColumnSpec) :
    (spec.fragment type).params = spec.initial.toList := by
  obtain ⟨size, scale, nullable, primaryKey, unique, autoIncrement, initial⟩ := spec
  cases initial <;> simp [ColumnSpec.fragment, ColumnSpec.initialFragment]

theorem plain_spec (type : DataType) (spec : ColumnSpec) : (spec.fragment type).Plain := by
  have word : Placeholder.Unmarked type.word.toList := by
    cases type <;> decide
  have null : Placeholder.Unmarked (if spec.nullable then " NULL" else " NOT NULL").toList := by
    split <;> decide
  have unique : Placeholder.Unmarked
      (if spec.unique && type.admitsUnique then " UNIQUE" else "").toList := by
    split <;> decide
  have counted : Placeholder.Unmarked
      (if spec.autoIncrement && type.isInteger then " AUTO_INCREMENT" else "").toList := by
    split <;> decide
  have initial : spec.initialFragment.Plain := by
    rw [ColumnSpec.initialFragment]
    split
    · rw [plain_append, plain_words]
      exact ⟨by decide, plain_bind _⟩
    · exact plain_empty
  simp only [ColumnSpec.fragment, plain_append, plain_words, word, unmarked_sizeText, null, unique,
    counted, initial, and_true]
  decide

theorem params_column (column : TableColumn) :
    column.fragment.params = column.spec.initial.toList := by
  rw [TableColumn.fragment]
  split <;> simp [params_spec]

theorem plain_column (column : TableColumn) : column.fragment.Plain := by
  rw [TableColumn.fragment]
  split
  · simp only [plain_append, plain_words, plain_name, plain_spec, true_and, and_true]
    decide
  · simp only [plain_append, plain_name, plain_spec, plain_empty, true_and]

theorem params_placement (placement : Option Placement) :
    (Placement.fragment placement).params = [] := by
  rcases placement with _ | _ | column <;> simp [Placement.fragment]

theorem plain_placement (placement : Option Placement) :
    (Placement.fragment placement).Plain := by
  rcases placement with _ | _ | column
  · exact plain_empty
  · rw [Placement.fragment, plain_words]
    decide
  · rw [Placement.fragment, plain_append, plain_words]
    exact ⟨by decide, plain_name column⟩

theorem params_change (change : TableChange) :
    change.fragment.params = (change.spec?.bind ColumnSpec.initial).toList := by
  cases change <;>
    simp [TableChange.fragment, TableChange.placed, TableChange.spec?, params_spec,
      params_placement]

theorem plain_change (change : TableChange) : change.fragment.Plain := by
  cases change <;>
    simp only [TableChange.fragment, TableChange.placed, plain_append, plain_words, plain_name,
      plain_spec, plain_placement, and_true] <;> decide

theorem binds_create {table : String} {ifNotExists : Bool} {columns : List TableColumn}
    {fragment : Fragment} (success : create table ifNotExists columns = .ok fragment) :
    fragment.Plain ∧ fragment.params = columns.filterMap fun column => column.spec.initial := by
  unfold create at success
  split at success
  · cases success
  · obtain rfl := Except.ok.inj success
    have declarations : (joined ", " (columns.map TableColumn.fragment)).Plain := by
      refine plain_joined (by decide) fun fragment member => ?_
      obtain ⟨column, -, rfl⟩ := List.mem_map.1 member
      exact plain_column column
    constructor
    · simp only [plain_append, plain_words, plain_name, declarations, and_true]
      cases ifNotExists <;> decide
    · simp [List.flatMap_map, params_column, List.filterMap_eq_flatMap_toList]

theorem binds_alter {table : String} {changes : List TableChange} {fragment : Fragment}
    (success : alter table changes = .ok fragment) :
    fragment.Plain ∧
      fragment.params = changes.filterMap fun change => change.spec?.bind ColumnSpec.initial := by
  unfold alter at success
  split at success
  · cases success
  · obtain rfl := Except.ok.inj success
    have pieces : (joined "," (changes.map TableChange.fragment)).Plain := by
      refine plain_joined (by decide) fun fragment member => ?_
      obtain ⟨change, -, rfl⟩ := List.mem_map.1 member
      exact plain_change change
    constructor
    · simp only [plain_append, plain_words, plain_name, pieces, and_true]
      decide
    · simp [List.flatMap_map, params_change, List.filterMap_eq_flatMap_toList]

end Table

namespace EntityQuery

/-- The page of a query does not depend on the levels, only on whether there are associations to
follow. -/
theorem page_of_resolution {registry : Registry} {config : Config} {root : EntitySchema}
    {options : EntityOptions} {resolution : Resolution}
    (resolved : Resolution.ofPopulates registry root options.populate = .ok resolution) :
    page config resolution.plan true options.page = Request.pageOfOne config options := by
  cases asked : options.page <;>
    simp [page, Request.pageOfOne, Resolution.isJoined_ofPopulates resolved, asked]

theorem params_fragment (config : Config) (resolution : Resolution) (filter : Filter)
    (options : EntityOptions) (single : Bool) :
    (fragment config resolution filter options single).params =
      Filter.operands filter ++
        Request.pageValues (page config resolution.plan single options.page) := by
  rw [fragment, Query.params_paged, Filter.operands_mapColumns]

theorem plain_fragment (config : Config) (resolution : Resolution) (filter : Filter)
    (options : EntityOptions) (single : Bool) :
    (fragment config resolution filter options single).Plain :=
  Query.plain_paged _ _ _ _

end EntityQuery

namespace Request

/-- What is known of a statement that is made from a plain fragment. -/
theorem bound_of_statement {fragment : Fragment} {statement : Statement} {values : List Value}
    (plain : fragment.Plain) (params : fragment.params = values)
    (success : fragment.statement = .ok statement) :
    Placeholder.count false statement.text.toList = statement.params.length ∧
      statement.params = values := by
  obtain ⟨-, rfl⟩ := statement_eq_ok success
  exact ⟨plain.count_eq, params⟩

/-- A statement has one placeholder outside of names for each of its parameters, and these are
the values of the request in the order of its clauses. A filter takes as many of them as it
counts. -/
theorem placeholders_bind_values {request : Request} {statement : Statement}
    (success : request.compile = .ok statement) :
    (Placeholder.count false statement.text.toList = statement.params.length ∧
      statement.params = request.values) ∧
      ∀ filter : Filter, (Filter.clause filter).params.length = Filter.paramCount filter ∧
        (Filter.nested filter).params.length = Filter.paramCount filter := by
  refine ⟨?_, fun filter => ⟨?_, ?_⟩⟩
  · cases request with
    | find table filter options =>
        exact bound_of_statement (Query.plain_paged _ _ _ _) (Query.params_paged _ _ _ _)
          (mapError_eq_ok success)
    | findOne table filter options =>
        exact bound_of_statement (Query.plain_paged _ _ _ _) (Query.params_paged _ _ _ _)
          (mapError_eq_ok success)
    | count table filter options =>
        exact bound_of_statement (Query.plain_count _ _ _) (Query.params_count _ _ _)
          (mapError_eq_ok success)
    | insert table values =>
        obtain ⟨fragment, built, written⟩ := bind_eq_ok (mapError_eq_ok success)
        obtain ⟨plain, params⟩ := Query.binds_insert built
        exact bound_of_statement plain params written
    | update table values filter =>
        obtain ⟨fragment, built, written⟩ := bind_eq_ok (mapError_eq_ok success)
        obtain ⟨plain, params⟩ := Query.binds_update built
        exact bound_of_statement plain params written
    | delete table filter =>
        exact bound_of_statement (Query.plain_delete _ _) (Query.params_delete _ _)
          (mapError_eq_ok success)
    | findEntities registry config entity filter options =>
        obtain ⟨query, built, rfl⟩ := map_eq_ok success
        obtain ⟨root, resolution, -, -, written, -⟩ := EntityQuery.build_eq_ok built
        refine bound_of_statement (EntityQuery.plain_fragment _ _ _ _ _) ?_ written
        rw [EntityQuery.params_fragment]
        cases asked : options.page <;> simp [EntityQuery.page, values, asked]
    | findEntity registry config entity filter options =>
        obtain ⟨query, built, rfl⟩ := map_eq_ok success
        obtain ⟨root, resolution, -, resolved, written, -⟩ := EntityQuery.build_eq_ok built
        refine bound_of_statement (EntityQuery.plain_fragment _ _ _ _ _) ?_ written
        rw [EntityQuery.params_fragment, EntityQuery.page_of_resolution resolved, values]
    | countEntities registry entity filter =>
        obtain ⟨schema, -, written⟩ := EntityQuery.count_eq_ok success
        refine bound_of_statement (Query.plain_count _ _ _) ?_ written
        rw [Query.params_count, EntityQuery.storageFilter, Filter.operands_mapColumns, values]
    | createTable table ifNotExists columns =>
        obtain ⟨fragment, built, written⟩ := bind_eq_ok (mapError_eq_ok success)
        obtain ⟨plain, params⟩ := Table.binds_create built
        exact bound_of_statement plain params written
    | alterTable table changes =>
        obtain ⟨fragment, built, written⟩ := bind_eq_ok (mapError_eq_ok success)
        obtain ⟨plain, params⟩ := Table.binds_alter built
        exact bound_of_statement plain params written
  · rw [Filter.params_clause, Filter.paramCount_eq]
  · rw [Filter.params_nested, Filter.paramCount_eq]

/-- An update whose names hold question marks and backticks, with a range, an empty list and a
list of two values in its filter, which counts four of the six placeholders. -/
theorem placeholders_bind_values_update :
    let filter : Filter :=
      [.column (.qualified "t" "c?") (.between (.int 2) (.int 3)),
        .disjunction [[.column (.bare "z") (.inList [])],
          [.column (.bare "w") (.inList [.bool true, .text "?"])]]]
    let request : Request := .update "a?" [("x\x60?", .int 1), ("y", .null)] filter
    ∃ statement, request.compile = .ok statement ∧
      (Placeholder.count false statement.text.toList = statement.params.length ∧
        statement.params = [.int 1, .null, .int 2, .int 3, .bool true, .text "?"]) ∧
      (Filter.clause filter).params.length = 4 := by
  intro filter request
  have success : request.compile = .ok
      ⟨(Fragment.mk _).text, [.int 1, .null, .int 2, .int 3, .bool true, .text "?"]⟩ := rfl
  obtain ⟨bound, counted⟩ := placeholders_bind_values success
  exact ⟨_, success, bound, (counted filter).1⟩

end Request

end EntityMapper
