import EntityMapper.Proofs.Statement.Binding
import EntityMapper.Proofs.Statement.Draft

set_option autoImplicit false

/-! Names do not change the structure of a statement: its text closes every name, names are read as
they are given, and what stands outside of them hangs on the shape of the description alone. -/

namespace EntityMapper

open Fragment Outcome

namespace Fragment

/-- Without names every character stands outside of them. -/
theorem parts_of_nameless {fragment : Fragment} (plain : fragment.Plain)
    (nameless : fragment.names = []) :
    (∀ c ∈ fragment.chars, c ≠ Name.delimiter) ∧ fragment.parts = fragment.chars.map .outside := by
  obtain ⟨pieces⟩ := fragment
  rw [chars_eq, parts]
  induction pieces with
  | nil => exact ⟨fun c member => absurd member List.not_mem_nil, rfl⟩
  | cons piece rest ih =>
      have here := plain piece List.mem_cons_self
      have none : piece.name? = none ∧ Fragment.names ⟨rest⟩ = [] := by
        rw [Fragment.names, List.filterMap_cons] at nameless
        cases named : piece.name? with
        | none =>
            rw [named] at nameless
            exact ⟨rfl, nameless⟩
        | some spelling =>
            rw [named] at nameless
            cases nameless
      obtain ⟨free, same⟩ := ih (fun other member => plain other (List.mem_cons_of_mem _ member))
        none.2
      rw [List.flatMap_cons, List.flatMap_cons, List.map_append, same, List.forall_mem_append]
      cases piece with
      | words text => exact ⟨⟨fun c member => (here c member).1, free⟩, rfl⟩
      | name spelling => cases none.1
      | bind value =>
          have mark : (Piece.bind value).text.toList = ['?'] := by
            rw [Piece.text]
            rfl
          have apart : '?' ≠ Name.delimiter := by decide
          rw [mark]
          exact ⟨⟨List.forall_mem_singleton.2 apart, free⟩, rfl⟩
      | prepared text params => exact here.elim

theorem clear_of_nameless {fragment : Fragment} (plain : fragment.Plain)
    (nameless : fragment.names = []) : fragment.Clear ∧ fragment.opens = false := by
  obtain ⟨free, same⟩ := parts_of_nameless plain nameless
  constructor
  · rw [Clear, Outline.run_of_free free, same]
    exact ⟨rfl, List.append_nil _⟩
  · rw [opens]
    cases written : fragment.chars with
    | nil => rfl
    | cons c rest =>
        have other := free c (written ▸ List.mem_cons_self)
        simpa using other

@[simp] theorem shape_column (reference : ColumnRef) :
    (column reference.shape).shape = (column reference).shape := by
  obtain ⟨table, spelling⟩ := reference
  cases table <;> simp [column, ColumnRef.shape]

@[simp] theorem names_table (reference : TableRef) : (table reference).names = reference.names := by
  obtain ⟨spelling, alias?⟩ := reference
  cases alias? <;> simp [table, TableRef.names]

@[simp] theorem shape_table (reference : TableRef) :
    (table reference.shape).shape = (table reference).shape := by
  obtain ⟨spelling, alias?⟩ := reference
  cases alias? <;> simp [table, TableRef.shape]

end Fragment

namespace Filter

theorem respells_shape : Respells Name.blank ColumnRef.shape := shape_column

@[simp] theorem shape_clause_shape (filter : Filter) :
    (clause filter.shape).shape = (clause filter).shape :=
  rename_clause respells_shape filter

end Filter

namespace SelectItem

theorem clear_fragment (item : SelectItem) : item.fragment.Clear := by
  obtain ⟨column, alias?, table, aggregate⟩ := item
  have plain : (Fragment.column ⟨table, column⟩).Clear := clear_column _
  have wrapped (aggregate : Aggregate) : (words aggregate.word ++ words "(" ++
      Fragment.column ⟨table, column⟩ ++ words ")").Clear := by
    have word : (words aggregate.word).Clear := clear_words (by cases aggregate <;> decide)
    exact (word.divided (by decide) plain).ended (by decide)
  cases aggregate with
  | none =>
      cases alias? with
      | none => exact plain
      | some label => exact plain.divided (by decide) (clear_name label)
  | some aggregate =>
      cases alias? with
      | none => exact wrapped aggregate
      | some label => exact (wrapped aggregate).divided (by decide) (clear_name label)

@[simp] theorem names_fragment (item : SelectItem) : item.fragment.names = item.names := by
  obtain ⟨column, alias?, table, aggregate⟩ := item
  cases alias? <;> cases aggregate <;> simp [fragment, names]

@[simp] theorem shape_fragment (item : SelectItem) :
    item.shape.fragment.shape = item.fragment.shape := by
  obtain ⟨column, alias?, table, aggregate⟩ := item
  have same := shape_column ⟨table, column⟩
  rw [ColumnRef.shape] at same
  cases alias? <;> cases aggregate <;> simp [fragment, shape, same]

theorem clear_clause (items : List SelectItem) : (clause items).Clear := by
  rw [clause]
  split
  · exact clear_words (by decide)
  · refine (clear_joined (by decide) fun fragment member => ?_).led (by decide)
    obtain ⟨item, -, rfl⟩ := List.mem_map.1 member
    exact item.clear_fragment

@[simp] theorem names_clause (items : List SelectItem) :
    (clause items).names = items.flatMap names := by
  cases items with
  | nil => rfl
  | cons item rest => simp [clause, List.flatMap_map]

@[simp] theorem shape_clause (items : List SelectItem) :
    (clause (items.map shape)).shape = (clause items).shape := by
  cases items with
  | nil => rfl
  | cons item rest => simp [clause, Function.comp_def]

end SelectItem

namespace Join

theorem clear_fragment (join : Join) : join.fragment.Clear := by
  have kind : (words " " ++ words join.kind.word).Clear := by
    have unmarked : Placeholder.Unmarked join.kind.word.toList := by
      cases join.kind <;> decide
    exact (clear_words (by decide)).ended unmarked
  exact ((kind.divided (by decide) (clear_table _)).divided (by decide)
    (clear_column _)).divided (by decide) (clear_column _)

theorem opens_fragment (join : Join) : join.fragment.opens = false := by
  simp only [fragment, append_assoc]
  exact opens_led (by decide) _

@[simp] theorem names_fragment (join : Join) : join.fragment.names = join.names := by
  simp [fragment, names]

@[simp] theorem shape_fragment (join : Join) :
    join.shape.fragment.shape = join.fragment.shape := by
  simp [fragment, shape]

theorem clear_clause (joins : List Join) : (clause joins).Clear ∧ (clause joins).opens = false := by
  refine clear_joined_apart (by decide) fun fragment member => ?_
  obtain ⟨join, -, rfl⟩ := List.mem_map.1 member
  exact ⟨join.clear_fragment, join.opens_fragment⟩

@[simp] theorem names_clause (joins : List Join) : (clause joins).names = joins.flatMap names := by
  simp [clause, List.flatMap_map]

@[simp] theorem shape_clause (joins : List Join) :
    (clause (joins.map shape)).shape = (clause joins).shape := by
  simp [clause, Function.comp_def]

end Join

namespace OrderBy

theorem clear_clause (entries : List OrderBy) : (clause entries).Clear := by
  refine clear_listed (by decide) fun fragment member => ?_
  obtain ⟨⟨column, direction⟩, -, rfl⟩ := List.mem_map.1 member
  have word : (words direction.word).Clear := clear_words (by cases direction <;> decide)
  exact (clear_column column).divided (by decide) word

@[simp] theorem names_clause (entries : List OrderBy) :
    (clause entries).names = entries.flatMap fun entry => entry.column.names := by
  simp [clause, fragment, List.flatMap_map]

@[simp] theorem shape_clause (entries : List OrderBy) :
    (clause (entries.map shape)).shape = (clause entries).shape := by
  simp [clause, fragment, shape, Function.comp_def]

end OrderBy

theorem clear_groupByClause (columns : List ColumnRef) : (groupByClause columns).Clear := by
  refine clear_listed (by decide) fun fragment member => ?_
  obtain ⟨column, -, rfl⟩ := List.mem_map.1 member
  exact clear_column column

@[simp] theorem names_groupByClause (columns : List ColumnRef) :
    (groupByClause columns).names = columns.flatMap ColumnRef.names := by
  simp [groupByClause, List.flatMap_map]

@[simp] theorem shape_groupByClause (columns : List ColumnRef) :
    (groupByClause (columns.map ColumnRef.shape)).shape = (groupByClause columns).shape := by
  simp [groupByClause, Function.comp_def]

namespace Page

@[simp] theorem names_clause (page : Page) : page.clause.names = [] := rfl

@[simp] theorem shape_clause (page : Page) : page.clause.shape = page.clause := rfl

end Page

namespace Query

theorem clear_paged (table : TableRef) (filter : Filter) (options : FindOptions) (page : Page) :
    (paged table filter options page).Clear := by
  have source : (SelectItem.clause options.select ++ source table).Clear :=
    (SelectItem.clear_clause options.select).append ((clear_table table).led (by decide))
      (Or.inr (opens_led (by decide) _))
  have joins := Join.clear_clause options.joins
  have rows := clear_of_nameless page.plain_clause page.names_clause
  exact (((((source.append joins.1 (Or.inr joins.2)).append (Filter.clear_clause filter)
    (Or.inr (Filter.opens_clause filter))).append (clear_groupByClause _)
    (Or.inr (opens_listed (by decide) _))).append (OrderBy.clear_clause _)
    (Or.inr (opens_listed (by decide) _))).append rows.1 (Or.inr rows.2)).ended (by decide)

theorem names_paged (table : TableRef) (filter : Filter) (options : FindOptions) (page : Page) :
    (paged table filter options page).names = options.names table filter := by
  simp [paged, source, FindOptions.names, Filter.names]

theorem shape_paged (table : TableRef) (filter : Filter) (options : FindOptions) (page : Page) :
    (paged table.shape filter.shape options.shape page).shape =
      (paged table filter options page).shape := by
  simp [paged, source, FindOptions.shape]

theorem clear_counted (column : Option ColumnRef) : (counted column).Clear := by
  cases column with
  | none => exact clear_words (by decide)
  | some column => exact clear_column column

theorem clear_count (table : TableRef) (filter : Filter) (options : CountOptions) :
    (count table filter options).Clear := by
  have total : (words "SELECT COUNT(" ++ counted options.countBy ++ words ") AS " ++
      .name totalName).Clear :=
    ((clear_counted options.countBy).led (by decide)).divided (by decide) (clear_name totalName)
  have divides : Divides " FROM " := by decide
  have source := total.append ((clear_table table).led divides) (Or.inr (opens_led divides _))
  have joins := Join.clear_clause options.joins
  exact (((source.append joins.1 (Or.inr joins.2)).append (Filter.clear_clause filter)
    (Or.inr (Filter.opens_clause filter))).append (clear_groupByClause _)
    (Or.inr (opens_listed (by decide) _))).ended (by decide)

theorem names_count (table : TableRef) (filter : Filter) (options : CountOptions) :
    (count table filter options).names = options.names table filter := by
  cases asked : options.countBy <;>
    simp [count, counted, source, CountOptions.names, Filter.names, asked]

theorem shape_count (table : TableRef) (filter : Filter) (options : CountOptions) :
    (count table.shape filter.shape options.shape).shape = (count table filter options).shape := by
  cases asked : options.countBy <;>
    simp [count, counted, source, CountOptions.shape, asked]

/-- A new row, where its names can be written. -/
def inserted (table : String) (values : List (String × Value)) : Fragment :=
  words "INSERT INTO " ++ .name table ++ words " (" ++ insertColumns values ++
    words ") VALUES (" ++ joined ", " (values.map fun entry => bind entry.2) ++ words ");"

theorem insert_eq_ok {table : String} {values : List (String × Value)} {fragment : Fragment}
    (success : insert table values = .ok fragment) : fragment = inserted table values := by
  obtain ⟨columns, checking, success⟩ := bind_eq_ok success
  obtain ⟨-, rfl⟩ := checked_eq_ok checking
  split at success
  · cases success
  · exact (checked_eq_ok success).2

theorem clear_inserted (table : String) (values : List (String × Value)) :
    (inserted table values).Clear := by
  have columns : (insertColumns values).Clear := by
    refine clear_joined (by decide) fun fragment member => ?_
    obtain ⟨entry, -, rfl⟩ := List.mem_map.1 member
    exact clear_name entry.1
  have binds : (joined ", " (values.map fun entry => bind entry.2)).Clear := by
    refine clear_joined (by decide) fun fragment member => ?_
    obtain ⟨entry, -, rfl⟩ := List.mem_map.1 member
    exact clear_bind entry.2
  have into : (words "INSERT INTO " ++ .name table).Clear := (clear_name table).led (by decide)
  exact ((into.divided (by decide) columns).divided (by decide) binds).ended (by decide)

theorem names_inserted (table : String) (values : List (String × Value)) :
    (inserted table values).names = table :: values.map Prod.fst := by
  simp [inserted, insertColumns, List.flatMap_map, ← List.map_eq_flatMap]

theorem shape_inserted (table : String) (values : List (String × Value)) :
    (inserted (Name.blank table) (blankColumns values)).shape = (inserted table values).shape := by
  simp [inserted, insertColumns, blankColumns, Function.comp_def]

/-- New values for rows, where the names can be written. -/
def updated (table : String) (values : List (String × Value)) (filter : Filter) : Fragment :=
  words "UPDATE " ++ .name table ++ listed " SET " (values.map assignment) ++
    Filter.clause filter ++ words ";"

theorem update_eq_ok {table : String} {values : List (String × Value)} {filter : Filter}
    {fragment : Fragment} (success : update table values filter = .ok fragment) :
    fragment = updated table values filter := by
  obtain ⟨start, checking, success⟩ := bind_eq_ok success
  obtain ⟨-, rfl⟩ := checked_eq_ok checking
  split at success
  · cases success
  · exact (checked_eq_ok success).2

theorem clear_updated (table : String) (values : List (String × Value)) (filter : Filter) :
    (updated table values filter).Clear := by
  have assignments : (listed " SET " (values.map assignment)).Clear := by
    refine clear_listed (by decide) fun fragment member => ?_
    obtain ⟨entry, -, rfl⟩ := List.mem_map.1 member
    exact (clear_name entry.1).divided (by decide) (clear_bind entry.2)
  have start : (words "UPDATE " ++ .name table).Clear := (clear_name table).led (by decide)
  exact ((start.append assignments (Or.inr (opens_listed (by decide) _))).append
    (Filter.clear_clause filter) (Or.inr (Filter.opens_clause filter))).ended (by decide)

theorem names_updated (table : String) (values : List (String × Value)) (filter : Filter) :
    (updated table values filter).names = table :: values.map Prod.fst ++ filter.names := by
  simp [updated, assignment, Filter.names, List.flatMap_map, ← List.map_eq_flatMap]

theorem shape_updated (table : String) (values : List (String × Value)) (filter : Filter) :
    (updated (Name.blank table) (blankColumns values) filter.shape).shape =
      (updated table values filter).shape := by
  simp [updated, assignment, blankColumns, Function.comp_def]

theorem clear_delete (table : String) (filter : Filter) : (delete table filter).Clear := by
  have start : (words "DELETE FROM " ++ .name table).Clear := (clear_name table).led (by decide)
  exact (start.append (Filter.clear_clause filter) (Or.inr (Filter.opens_clause filter))).ended
    (by decide)

theorem names_delete (table : String) (filter : Filter) :
    (delete table filter).names = table :: filter.names := by
  simp [delete, Filter.names]

theorem shape_delete (table : String) (filter : Filter) :
    (delete (Name.blank table) filter.shape).shape = (delete table filter).shape := by
  simp [delete]

end Query

namespace ColumnSpec

@[simp] theorem names_fragment (type : DataType) (spec : ColumnSpec) :
    (spec.fragment type).names = [] := by
  obtain ⟨size, scale, nullable, primaryKey, unique, autoIncrement, initial⟩ := spec
  cases initial <;> simp [fragment, initialFragment]

end ColumnSpec

namespace TableColumn

theorem clear_fragment (column : TableColumn) : column.fragment.Clear := by
  have spec := clear_of_nameless (Table.plain_spec column.type column.spec)
    (ColumnSpec.names_fragment column.type column.spec)
  have declared := (clear_name column.name).append spec.1 (Or.inr spec.2)
  have key : (words ", PRIMARY KEY (" ++ .name column.name ++ words ")").Clear :=
    ((clear_name column.name).led (by decide)).ended (by decide)
  rw [fragment]
  split
  · refine declared.append key (Or.inr ?_)
    rw [append_assoc]
    exact opens_led (by decide) _
  · exact declared.append clear_empty (Or.inr opens_empty)

@[simp] theorem names_fragment (column : TableColumn) : column.fragment.names = column.names := by
  rw [fragment, names]
  split <;> simp

@[simp] theorem shape_fragment (column : TableColumn) :
    column.shape.fragment.shape = column.fragment.shape := by
  rw [fragment, fragment, shape]
  split <;> simp

end TableColumn

namespace Placement

theorem clear_fragment (placement : Option Placement) :
    (fragment placement).Clear ∧ (fragment placement).opens = false := by
  rcases placement with _ | _ | column
  · exact ⟨clear_empty, opens_empty⟩
  · exact ⟨clear_words (by decide), opens_words (by decide)⟩
  · exact ⟨(clear_name column).led (by decide), opens_led (by decide) _⟩

@[simp] theorem names_fragment (placement : Option Placement) :
    (fragment placement).names = names placement := by
  rcases placement with _ | _ | column <;> rfl

@[simp] theorem shape_fragment (placement : Option Placement) :
    (fragment (placement.map shape)).shape = (fragment placement).shape := by
  rcases placement with _ | _ | column <;> simp [fragment, shape]

end Placement

namespace TableChange

theorem clear_placed {action : String} (divides : Divides action) (column : TableColumn)
    (placement : Option Placement) : (placed action column placement).Clear := by
  have spec := clear_of_nameless (Table.plain_spec column.type column.spec)
    (ColumnSpec.names_fragment column.type column.spec)
  have place := Placement.clear_fragment placement
  exact (((clear_name column.name).led divides).append spec.1 (Or.inr spec.2)).append place.1
    (Or.inr place.2)

theorem opens_placed {action : String} (divides : Divides action) (column : TableColumn)
    (placement : Option Placement) : (placed action column placement).opens = false := by
  rw [placed, append_assoc, append_assoc]
  exact opens_led divides _

theorem clear_fragment (change : TableChange) :
    change.fragment.Clear ∧ change.fragment.opens = false := by
  cases change with
  | add column placement =>
      exact ⟨clear_placed (by decide) column placement, opens_placed (by decide) column placement⟩
  | modify column placement =>
      exact ⟨clear_placed (by decide) column placement, opens_placed (by decide) column placement⟩
  | drop column => exact ⟨(clear_name column).led (by decide), opens_led (by decide) _⟩

@[simp] theorem names_fragment (change : TableChange) : change.fragment.names = change.names := by
  cases change <;> simp [fragment, placed, names]

@[simp] theorem shape_fragment (change : TableChange) :
    change.shape.fragment.shape = change.fragment.shape := by
  cases change <;> simp [fragment, placed, shape, TableColumn.shape]

end TableChange

namespace Table

/-- A new table, where it has columns. -/
def created (table : String) (ifNotExists : Bool) (columns : List TableColumn) : Fragment :=
  words "CREATE TABLE " ++ words (if ifNotExists then "IF NOT EXISTS " else "") ++ .name table ++
    words " (" ++ joined ", " (columns.map TableColumn.fragment) ++ words ");"

theorem create_eq_ok {table : String} {ifNotExists : Bool} {columns : List TableColumn}
    {fragment : Fragment} (success : create table ifNotExists columns = .ok fragment) :
    fragment = created table ifNotExists columns := by
  unfold create at success
  split at success
  · cases success
  · exact (Except.ok.inj success).symm

theorem clear_created (table : String) (ifNotExists : Bool) (columns : List TableColumn) :
    (created table ifNotExists columns).Clear := by
  have start : (words "CREATE TABLE " ++ words (if ifNotExists then "IF NOT EXISTS " else "") ++
      .name table).Clear := by
    cases ifNotExists with
    | true => exact (clear_words (by decide)).divided (by decide) (clear_name table)
    | false =>
        rw [append_assoc]
        refine ((clear_name table).led (by decide))
  have declarations : (joined ", " (columns.map TableColumn.fragment)).Clear := by
    refine clear_joined (by decide) fun fragment member => ?_
    obtain ⟨column, -, rfl⟩ := List.mem_map.1 member
    exact column.clear_fragment
  exact (start.divided (by decide) declarations).ended (by decide)

theorem names_created (table : String) (ifNotExists : Bool) (columns : List TableColumn) :
    (created table ifNotExists columns).names = table :: columns.flatMap TableColumn.names := by
  simp [created, List.flatMap_map]

theorem shape_created (table : String) (ifNotExists : Bool) (columns : List TableColumn) :
    (created (Name.blank table) ifNotExists (columns.map TableColumn.shape)).shape =
      (created table ifNotExists columns).shape := by
  simp [created, Function.comp_def]

/-- The changes of a table, where there are any. -/
def altered (table : String) (changes : List TableChange) : Fragment :=
  words "ALTER TABLE " ++ .name table ++ joined "," (changes.map TableChange.fragment) ++ words ";"

theorem alter_eq_ok {table : String} {changes : List TableChange} {fragment : Fragment}
    (success : alter table changes = .ok fragment) : fragment = altered table changes := by
  unfold alter at success
  split at success
  · cases success
  · exact (Except.ok.inj success).symm

theorem clear_altered (table : String) (changes : List TableChange) :
    (altered table changes).Clear := by
  have pieces : (joined "," (changes.map TableChange.fragment)).Clear ∧
      (joined "," (changes.map TableChange.fragment)).opens = false := by
    refine clear_joined_apart (by decide) fun fragment member => ?_
    obtain ⟨change, -, rfl⟩ := List.mem_map.1 member
    exact change.clear_fragment
  have start : (words "ALTER TABLE " ++ .name table).Clear := (clear_name table).led (by decide)
  exact (start.append pieces.1 (Or.inr pieces.2)).ended (by decide)

theorem names_altered (table : String) (changes : List TableChange) :
    (altered table changes).names = table :: changes.flatMap TableChange.names := by
  simp [altered, List.flatMap_map]

theorem shape_altered (table : String) (changes : List TableChange) :
    (altered (Name.blank table) (changes.map TableChange.shape)).shape =
      (altered table changes).shape := by
  simp [altered, Function.comp_def]

theorem clear_drop (table : String) (ifExists : Bool) : (drop table ifExists).Clear := by
  have start : (words "DROP TABLE " ++ words (if ifExists then "IF EXISTS " else "") ++
      .name table).Clear := by
    cases ifExists with
    | true => exact (clear_words (by decide)).divided (by decide) (clear_name table)
    | false => exact (clear_name table).led (by decide)
  exact start.ended (by decide)

theorem shape_drop (table : String) (ifExists : Bool) :
    (drop (Name.blank table) ifExists).shape = (drop table ifExists).shape := by
  simp [drop]

theorem clear_rename (source target : String) : (rename source target).Clear :=
  (((clear_name source).led (by decide)).divided (by decide) (clear_name target)).ended (by decide)

theorem shape_rename (source target : String) :
    (rename (Name.blank source) (Name.blank target)).shape = (rename source target).shape := by
  simp [rename]

end Table

namespace Draft

/-- The pieces of a statement, where there is one. -/
def fragment : Draft → Fragment
  | .find table filter options => Query.find table filter options
  | .findOne table filter options => Query.findOne table filter options
  | .count table filter options => Query.count table filter options
  | .insert table values => Query.inserted table values
  | .update table values filter => Query.updated table values filter
  | .delete table filter => Query.delete table filter
  | .createTable table ifNotExists columns => Table.created table ifNotExists columns
  | .alterTable table changes => Table.altered table changes
  | .dropTable table ifExists => Table.drop table ifExists
  | .renameTable source target => Table.rename source target

theorem compile_eq_ok {draft : Draft} {statement : Statement}
    (success : draft.compile = .ok statement) :
    statement = ⟨draft.fragment.text, draft.fragment.params⟩ := by
  cases draft with
  | insert table values =>
      obtain ⟨fragment, built, written⟩ := bind_eq_ok success
      rw [(statement_eq_ok written).2, Query.insert_eq_ok built, Draft.fragment]
  | update table values filter =>
      obtain ⟨fragment, built, written⟩ := bind_eq_ok success
      rw [(statement_eq_ok written).2, Query.update_eq_ok built, Draft.fragment]
  | createTable table ifNotExists columns =>
      obtain ⟨fragment, built, written⟩ := bind_eq_ok success
      rw [(statement_eq_ok written).2, Table.create_eq_ok built, Draft.fragment]
  | alterTable table changes =>
      obtain ⟨fragment, built, written⟩ := bind_eq_ok success
      rw [(statement_eq_ok written).2, Table.alter_eq_ok built, Draft.fragment]
  | _ => exact (statement_eq_ok success).2

theorem clear_fragment (draft : Draft) : draft.fragment.Clear := by
  cases draft with
  | find table filter options => exact Query.clear_paged _ _ _ _
  | findOne table filter options => exact Query.clear_paged _ _ _ _
  | count table filter options => exact Query.clear_count _ _ _
  | insert table values => exact Query.clear_inserted _ _
  | update table values filter => exact Query.clear_updated _ _ _
  | delete table filter => exact Query.clear_delete _ _
  | createTable table ifNotExists columns => exact Table.clear_created _ _ _
  | alterTable table changes => exact Table.clear_altered _ _
  | dropTable table ifExists => exact Table.clear_drop _ _
  | renameTable source target => exact Table.clear_rename _ _

/-- The names that are written are those of the description, in its order. -/
theorem names_fragment (draft : Draft) : draft.fragment.names = draft.names := by
  cases draft with
  | find table filter options => exact Query.names_paged _ _ _ _
  | findOne table filter options => exact Query.names_paged _ _ _ _
  | count table filter options => exact Query.names_count _ _ _
  | insert table values => exact Query.names_inserted _ _
  | update table values filter => exact Query.names_updated _ _ _
  | delete table filter => exact Query.names_delete _ _
  | createTable table ifNotExists columns => exact Table.names_created _ _ _
  | alterTable table changes => exact Table.names_altered _ _
  | dropTable table ifExists => rfl
  | renameTable source target => rfl

/-- What is written apart from the spelling of names hangs on the shape of the description. -/
theorem shape_fragment (draft : Draft) : draft.shape.fragment.shape = draft.fragment.shape := by
  cases draft with
  | find table filter options => exact Query.shape_paged _ _ _ _
  | findOne table filter options => exact Query.shape_paged _ _ _ _
  | count table filter options => exact Query.shape_count _ _ _
  | insert table values => exact Query.shape_inserted _ _
  | update table values filter => exact Query.shape_updated _ _ _
  | delete table filter => exact Query.shape_delete _ _
  | createTable table ifNotExists columns => exact Table.shape_created _ _ _
  | alterTable table changes => exact Table.shape_altered _ _
  | dropTable table ifExists => exact Table.shape_drop _ _
  | renameTable source target => exact Table.shape_rename _ _

/-- The statement is made from the description, directly or for a request that comes to it. -/
def Gives (draft : Draft) (statement : Statement) : Prop :=
  draft.compile = .ok statement ∨
    ∃ request : Request, request.draft? = .ok draft ∧ request.compile = .ok statement

theorem Gives.compile_eq {draft : Draft} {statement : Statement} (gives : draft.Gives statement) :
    draft.compile = .ok statement := by
  rcases gives with success | ⟨request, resolved, success⟩
  · exact success
  · obtain ⟨other, same, written⟩ := Request.draft_of_compile success
    rw [resolved] at same
    obtain rfl := Except.ok.inj same
    exact written

/-- The text of a statement closes every name and is read as its pieces: names as they are given,
in the order of the description, and the wildcard bare. What stands outside of names hangs on the
shape of the description alone, so that a description that differs in the spelling of names only
gives a text that differs inside of names only, and the same values. -/
theorem names_keep_structure {draft : Draft} {statement : Statement}
    (gives : draft.Gives statement) :
    (Outline.parts? statement.text.toList = some draft.fragment.parts ∧
      draft.fragment.names = draft.names ∧
      draft.fragment.parts.filterMap Part.name? =
        draft.names.filter (fun name => name ≠ Name.wildcard) ∧
      draft.fragment.parts.map Part.blank = draft.shape.fragment.parts.map Part.blank) ∧
    ∀ (other : Draft) (changed : Statement), other.shape = draft.shape → other.Gives changed →
      Outline.parts? changed.text.toList = some other.fragment.parts ∧
        other.fragment.parts.map Part.blank = draft.fragment.parts.map Part.blank ∧
        changed.params = statement.params := by
  have fixed (draft : Draft) :
      draft.fragment.parts.map Part.blank = draft.shape.fragment.parts.map Part.blank := by
    rw [← parts_shape, ← parts_shape, shape_fragment]
  obtain rfl := compile_eq_ok gives.compile_eq
  refine ⟨⟨draft.clear_fragment.parts?, draft.names_fragment, ?_, fixed draft⟩, ?_⟩
  · rw [names_parts, names_fragment]
  · intro other changed same givesOther
    obtain rfl := compile_eq_ok givesOther.compile_eq
    refine ⟨other.clear_fragment.parts?, ?_, ?_⟩
    · rw [fixed other, same, ← fixed draft]
    · have shapes : other.fragment.shape = draft.fragment.shape := by
        rw [← shape_fragment other, same, shape_fragment draft]
      have values := congrArg params shapes
      rw [params_rename, params_rename] at values
      exact values

/-- A find whose names hold backticks, quotes, question marks and a second statement, beside one
with plain names. -/
theorem names_keep_structure_find :
    let draft : Draft := .find ⟨"a\x60", some "\x60\x60?"⟩
      [.column (.qualified "\x60\x60?" "x' OR 1; --") (.eq (.int 7))]
      { (default : FindOptions) with select := [.allOf "\x60\x60?", .plain "\x60 \x60"] }
    let other : Draft := .find ⟨"authors", some "a"⟩ [.column (.qualified "a" "id") (.eq (.int 7))]
      { (default : FindOptions) with select := [.allOf "a", .plain "name"] }
    ∃ statement changed, draft.Gives statement ∧ other.Gives changed ∧
      other.shape = draft.shape ∧
      Outline.parts? statement.text.toList = some draft.fragment.parts ∧
      draft.fragment.parts.filterMap Part.name? =
        ["\x60\x60?", "\x60 \x60", "a\x60", "\x60\x60?", "\x60\x60?", "x' OR 1; --"] ∧
      other.fragment.parts.map Part.blank = draft.fragment.parts.map Part.blank := by
  intro draft other
  have gives : draft.Gives ⟨draft.fragment.text, draft.fragment.params⟩ := Or.inl rfl
  have givesOther : other.Gives ⟨other.fragment.text, other.fragment.params⟩ := Or.inl rfl
  have same : other.shape = draft.shape := rfl
  obtain ⟨⟨read, -, names, -⟩, changes⟩ := names_keep_structure gives
  refine ⟨_, _, gives, givesOther, same, read, ?_, (changes other _ same givesOther).2.1⟩
  rw [names]
  decide

end Draft

end EntityMapper
