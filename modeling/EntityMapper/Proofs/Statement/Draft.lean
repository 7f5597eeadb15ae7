import EntityMapper.Proofs.Filter.Outline
import EntityMapper.Proofs.Plan.EntityQuery
import EntityMapper.Proofs.Statement.Request

set_option autoImplicit false

/-! Descriptions of statements whose names stand in them as they are given: their names, in the
order in which they are written, and their shape, which is what is left without the spelling of
names. -/

namespace EntityMapper

namespace ColumnRef

def shape (column : ColumnRef) : ColumnRef :=
  ⟨column.table.map Name.blank, Name.blank column.column⟩

end ColumnRef

namespace TableRef

def names (table : TableRef) : List String := table.table :: table.alias?.toList

def shape (table : TableRef) : TableRef := ⟨Name.blank table.table, table.alias?.map Name.blank⟩

end TableRef

namespace SelectItem

def names (item : SelectItem) : List String :=
  ColumnRef.names ⟨item.table, item.column⟩ ++ item.alias?.toList

def shape (item : SelectItem) : SelectItem :=
  ⟨Name.blank item.column, item.alias?.map Name.blank, item.table.map Name.blank, item.aggregate⟩

end SelectItem

namespace Join

def names (join : Join) : List String := join.table.names ++ join.left.names ++ join.right.names

def shape (join : Join) : Join :=
  ⟨join.kind, join.table.shape, join.left.shape, join.right.shape⟩

end Join

namespace OrderBy

def shape (entry : OrderBy) : OrderBy := ⟨entry.column.shape, entry.direction⟩

end OrderBy

namespace Filter

def names (filter : Filter) : List String := (conditions filter).flatMap fun entry => entry.1.names

def shape (filter : Filter) : Filter := mapColumns ColumnRef.shape filter

end Filter

namespace FindOptions

/-- The names of a find on a table with a filter. -/
def names (table : TableRef) (filter : Filter) (options : FindOptions) : List String :=
  options.select.flatMap SelectItem.names ++ table.names ++ options.joins.flatMap Join.names ++
    filter.names ++ options.groupBy.flatMap ColumnRef.names ++
    options.orderBy.flatMap fun entry => entry.column.names

def shape (options : FindOptions) : FindOptions :=
  { options with
    select := options.select.map SelectItem.shape
    joins := options.joins.map Join.shape
    groupBy := options.groupBy.map ColumnRef.shape
    orderBy := options.orderBy.map OrderBy.shape }

end FindOptions

namespace CountOptions

/-- The names of a count on a table with a filter, with the one under which it is returned. -/
def names (table : TableRef) (filter : Filter) (options : CountOptions) : List String :=
  options.countBy.toList.flatMap ColumnRef.names ++ [Query.totalName] ++ table.names ++
    options.joins.flatMap Join.names ++ filter.names ++ options.groupBy.flatMap ColumnRef.names

def shape (options : CountOptions) : CountOptions :=
  ⟨options.countBy.map ColumnRef.shape, options.joins.map Join.shape,
    options.groupBy.map ColumnRef.shape⟩

end CountOptions

namespace TableColumn

/-- The column is named again where it is declared as the key. -/
def names (column : TableColumn) : List String :=
  column.name :: if column.spec.declaresKey column.type then [column.name] else []

def shape (column : TableColumn) : TableColumn :=
  ⟨Name.blank column.name, column.type, column.spec⟩

end TableColumn

namespace Placement

def names : Option Placement → List String
  | some (.after column) => [column]
  | _ => []

def shape : Placement → Placement
  | .first => .first
  | .after column => .after (Name.blank column)

end Placement

namespace TableChange

def names : TableChange → List String
  | .add column placement => column.name :: Placement.names placement
  | .modify column placement => column.name :: Placement.names placement
  | .drop column => [column]

def shape : TableChange → TableChange
  | .add column placement => .add column.shape (placement.map Placement.shape)
  | .modify column placement => .modify column.shape (placement.map Placement.shape)
  | .drop column => .drop (Name.blank column)

end TableChange

/-- Values by column, without the spelling of the columns. -/
def blankColumns (values : List (String × Value)) : List (String × Value) :=
  values.map fun entry => (Name.blank entry.1, entry.2)

/-- A description of a statement. -/
inductive Draft where
  | find (table : TableRef) (filter : Filter) (options : FindOptions)
  | findOne (table : TableRef) (filter : Filter) (options : FindOptions)
  | count (table : TableRef) (filter : Filter) (options : CountOptions)
  | insert (table : String) (values : List (String × Value))
  | update (table : String) (values : List (String × Value)) (filter : Filter)
  | delete (table : String) (filter : Filter)
  | createTable (table : String) (ifNotExists : Bool) (columns : List TableColumn)
  | alterTable (table : String) (changes : List TableChange)
  | dropTable (table : String) (ifExists : Bool)
  | renameTable (source target : String)

namespace Draft

/-- The statement of a description. -/
def compile : Draft → Except QueryFault Statement
  | .find table filter options => (Query.find table filter options).statement
  | .findOne table filter options => (Query.findOne table filter options).statement
  | .count table filter options => (Query.count table filter options).statement
  | .insert table values => Query.insert table values >>= Fragment.statement
  | .update table values filter => Query.update table values filter >>= Fragment.statement
  | .delete table filter => (Query.delete table filter).statement
  | .createTable table ifNotExists columns =>
      Table.create table ifNotExists columns >>= Fragment.statement
  | .alterTable table changes => Table.alter table changes >>= Fragment.statement
  | .dropTable table ifExists => (Table.drop table ifExists).statement
  | .renameTable source target => (Table.rename source target).statement

/-- All names, in the order in which they are written. -/
def names : Draft → List String
  | .find table filter options => options.names table filter
  | .findOne table filter options => options.names table filter
  | .count table filter options => options.names table filter
  | .insert table values => table :: values.map Prod.fst
  | .update table values filter => table :: values.map Prod.fst ++ filter.names
  | .delete table filter => table :: filter.names
  | .createTable table _ columns => table :: columns.flatMap TableColumn.names
  | .alterTable table changes => table :: changes.flatMap TableChange.names
  | .dropTable table _ => [table]
  | .renameTable source target => [source, target]

/-- The description without the spelling of names, the wildcard apart. -/
def shape : Draft → Draft
  | .find table filter options => .find table.shape filter.shape options.shape
  | .findOne table filter options => .findOne table.shape filter.shape options.shape
  | .count table filter options => .count table.shape filter.shape options.shape
  | .insert table values => .insert (Name.blank table) (blankColumns values)
  | .update table values filter => .update (Name.blank table) (blankColumns values) filter.shape
  | .delete table filter => .delete (Name.blank table) filter.shape
  | .createTable table ifNotExists columns =>
      .createTable (Name.blank table) ifNotExists (columns.map TableColumn.shape)
  | .alterTable table changes => .alterTable (Name.blank table) (changes.map TableChange.shape)
  | .dropTable table ifExists => .dropTable (Name.blank table) ifExists
  | .renameTable source target => .renameTable (Name.blank source) (Name.blank target)

end Draft

namespace EntityQuery

/-- The find that a query for entities comes to, once its associations are resolved. -/
def draft (config : Config) (resolution : Resolution) (filter : Filter) (options : EntityOptions)
    (single : Bool) : Draft :=
  .find (.named resolution.plan.root.schema.table)
    (Filter.mapColumns resolution.mapColumn filter)
    { select := selection resolution.plan
      joins := resolution.joins
      groupBy := options.groupBy.map resolution.mapColumn
      orderBy := order config resolution options.orderBy
      page := some (page config resolution.plan single options.page) }

/-- The draft of a query for entities, if its names can be resolved. -/
def draft? (registry : Registry) (config : Config) (entity : String) (filter : Filter)
    (options : EntityOptions) (single : Bool) : Except DefinitionFault Draft := do
  let root ← registry.find entity
  let resolution ← Resolution.ofPopulates registry root options.populate
  return draft config resolution filter options single

end EntityQuery

namespace Request

/-- The description in which the names of a request are resolved. -/
def draft? : Request → Except DefinitionFault Draft
  | .find table filter options => .ok (.find table filter options)
  | .findOne table filter options => .ok (.findOne table filter options)
  | .count table filter options => .ok (.count table filter options)
  | .insert table values => .ok (.insert table values)
  | .update table values filter => .ok (.update table values filter)
  | .delete table filter => .ok (.delete table filter)
  | .findEntities registry config entity filter options =>
      EntityQuery.draft? registry config entity filter options false
  | .findEntity registry config entity filter options =>
      EntityQuery.draft? registry config entity filter options true
  | .countEntities registry entity filter =>
      (registry.find entity).map fun schema =>
        .count (.named schema.table) (EntityQuery.storageFilter schema filter) default
  | .createTable table ifNotExists columns => .ok (.createTable table ifNotExists columns)
  | .alterTable table changes => .ok (.alterTable table changes)

open Outcome

/-- Every statement is that of a description with resolved names. -/
theorem draft_of_compile {request : Request} {statement : Statement}
    (success : request.compile = .ok statement) :
    ∃ draft, request.draft? = .ok draft ∧ draft.compile = .ok statement := by
  have entities {registry : Registry} {config : Config} {entity : String} {filter : Filter}
      {options : EntityOptions} {single : Bool} {query : EntityQuery}
      (built : EntityQuery.build registry config entity filter options single = .ok query) :
      ∃ draft, EntityQuery.draft? registry config entity filter options single = .ok draft ∧
        draft.compile = .ok query.statement := by
    obtain ⟨root, resolution, found, resolved, written, -⟩ := EntityQuery.build_eq_ok built
    refine ⟨EntityQuery.draft config resolution filter options single, ?_, written⟩
    rw [EntityQuery.draft?, found]
    change (Resolution.ofPopulates registry root options.populate >>= _) = _
    rw [resolved]
    rfl
  cases request with
  | findEntities registry config entity filter options =>
      obtain ⟨query, built, rfl⟩ := map_eq_ok success
      exact entities built
  | findEntity registry config entity filter options =>
      obtain ⟨query, built, rfl⟩ := map_eq_ok success
      exact entities built
  | countEntities registry entity filter =>
      obtain ⟨schema, found, written⟩ := EntityQuery.count_eq_ok success
      refine ⟨.count (.named schema.table) (EntityQuery.storageFilter schema filter) default, ?_,
        written⟩
      rw [draft?, found]
      rfl
  | _ => exact ⟨_, rfl, mapError_eq_ok success⟩

end Request

end EntityMapper
