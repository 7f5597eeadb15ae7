import EntityMapper.Plan.Resolution
import EntityMapper.Statement.Query

set_option autoImplicit false

/-! Queries for entities. -/

namespace EntityMapper

/-- What a query for entities returns. -/
structure EntityOptions where
  populate : List Populate
  orderBy : List OrderBy
  groupBy : List ColumnRef
  page : Option Page

namespace EntityOptions

instance : Inhabited EntityOptions := ⟨⟨[], [], [], none⟩⟩

end EntityOptions

/-- A query for entities, and how its rows are taken apart. -/
structure EntityQuery where
  statement : Statement
  plan : Plan

namespace EntityQuery

/-- Whether rows have to be split by tables. -/
def grouped (query : EntityQuery) : Bool := query.plan.isJoined

/-- Adds the keys of levels to an order, as far as they are not in it. -/
def orderByKeys (levels : List Level) (entries : List OrderBy) : List OrderBy :=
  levels.foldl
    (fun order level =>
      if order.any fun entry => entry.column = level.keyColumn then order
      else order ++ [⟨level.keyColumn, .ascending⟩])
    entries

/-- The order of the rows: what is asked for, then the keys of all levels if rows are joined. -/
def order (config : Config) (resolution : Resolution) (entries : List OrderBy) : List OrderBy :=
  let mapped := entries.map fun entry => { entry with column := resolution.mapColumn entry.column }
  if resolution.plan.isJoined && config.ordersPopulated then
    orderByKeys resolution.plan.levels mapped
  else mapped

/-- The columns of all levels if rows are joined; an empty list stands for everything. -/
def selection (plan : Plan) : List SelectItem :=
  if plan.isJoined then plan.levels.map fun level => .allOf level.label else []

/-- The page asked for; else one row, if one entity is asked for and takes one row. -/
def page (config : Config) (plan : Plan) (single : Bool) (asked : Option Page) : Page :=
  match asked with
  | some page => page
  | none => if single && !plan.isJoined then .single else ⟨1, config.pageSize⟩

/-- The statement of a query whose associations are resolved. -/
def fragment (config : Config) (resolution : Resolution) (filter : Filter)
    (options : EntityOptions) (single : Bool) : Fragment :=
  Query.paged (.named resolution.plan.root.schema.table)
    (Filter.mapColumns resolution.mapColumn filter)
    { select := selection resolution.plan
      joins := resolution.joins
      groupBy := options.groupBy.map resolution.mapColumn
      orderBy := order config resolution options.orderBy
      page := none }
    (page config resolution.plan single options.page)

def build (registry : Registry) (config : Config) (entity : String) (filter : Filter)
    (options : EntityOptions) (single : Bool) : Result EntityQuery := do
  let root ← registry.find entity
  let resolution ← Resolution.ofPopulates registry root options.populate
  let statement ← (fragment config resolution filter options single).statement
  return ⟨statement, resolution.plan⟩

/-- The query for all entities that pass a filter. -/
def find (registry : Registry) (config : Config) (entity : String) (filter : Filter)
    (options : EntityOptions) : Result EntityQuery :=
  build registry config entity filter options false

/-- The query for the first entity that passes a filter. -/
def findOne (registry : Registry) (config : Config) (entity : String) (filter : Filter)
    (options : EntityOptions) : Result EntityQuery :=
  build registry config entity filter options true

/-- A filter on the fields of an entity, as one on the columns of its table. -/
def storageFilter (schema : EntitySchema) (filter : Filter) : Filter :=
  Filter.mapColumns
    (fun column =>
      match column.table with
      | none => .bare (schema.storageName column.column)
      | some _ => column)
    filter

/-- The statement that counts the entities that pass a filter. -/
def count (registry : Registry) (entity : String) (filter : Filter) : Result Statement := do
  let schema ← registry.find entity
  let statement ←
    (Query.count (.named schema.table) (storageFilter schema filter) default).statement
  return statement

end EntityQuery

end EntityMapper
