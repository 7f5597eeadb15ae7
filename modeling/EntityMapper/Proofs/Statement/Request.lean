import EntityMapper.Plan.EntityQuery

set_option autoImplicit false

/-! All descriptions that statements with parameters are made from, and the values in them. -/

namespace EntityMapper

/-- A description of a statement. -/
inductive Request where
  | find (table : TableRef) (filter : Filter) (options : FindOptions)
  | findOne (table : TableRef) (filter : Filter) (options : FindOptions)
  | count (table : TableRef) (filter : Filter) (options : CountOptions)
  | insert (table : String) (values : List (String × Value))
  | update (table : String) (values : List (String × Value)) (filter : Filter)
  | delete (table : String) (filter : Filter)
  | findEntities (registry : Registry) (config : Config) (entity : String) (filter : Filter)
      (options : EntityOptions)
  | findEntity (registry : Registry) (config : Config) (entity : String) (filter : Filter)
      (options : EntityOptions)
  | countEntities (registry : Registry) (entity : String) (filter : Filter)
  | createTable (table : String) (ifNotExists : Bool) (columns : List TableColumn)
  | alterTable (table : String) (changes : List TableChange)

namespace TableChange

/-- The attributes of the column that a change describes. -/
def spec? : TableChange → Option ColumnSpec
  | .add column _ => some column.spec
  | .modify column _ => some column.spec
  | .drop _ => none

end TableChange

namespace Request

/-- The statement of a description. -/
def compile : Request → Result Statement
  | .find table filter options => (Query.find table filter options).statement.mapError .query
  | .findOne table filter options =>
      (Query.findOne table filter options).statement.mapError .query
  | .count table filter options => (Query.count table filter options).statement.mapError .query
  | .insert table values => (Query.insert table values >>= Fragment.statement).mapError .query
  | .update table values filter =>
      (Query.update table values filter >>= Fragment.statement).mapError .query
  | .delete table filter => (Query.delete table filter).statement.mapError .query
  | .findEntities registry config entity filter options =>
      (EntityQuery.find registry config entity filter options).map EntityQuery.statement
  | .findEntity registry config entity filter options =>
      (EntityQuery.findOne registry config entity filter options).map EntityQuery.statement
  | .countEntities registry entity filter => EntityQuery.count registry entity filter
  | .createTable table ifNotExists columns =>
      (Table.create table ifNotExists columns >>= Fragment.statement).mapError .query
  | .alterTable table changes =>
      (Table.alter table changes >>= Fragment.statement).mapError .query

/-- The size of a page and the number of rows before it, as they are bound. -/
def pageValues (page : Page) : List Value :=
  [.ofCount page.size.toNat, .ofCount page.offset]

/-- The page of a query for one entity: without a page asked for it is one row, unless other
entities are to be attached. -/
def pageOfOne (config : Config) (options : EntityOptions) : Page :=
  options.page.getD (if options.populate.isEmpty then .single else ⟨1, config.pageSize⟩)

/-- The values of a description in the order of the clauses they belong to: what is written to
columns, the operands of the filter, then the page. -/
def values : Request → List Value
  | .find _ filter options =>
      Filter.operands filter ++ pageValues (options.page.getD .initial)
  | .findOne _ filter _ => Filter.operands filter ++ pageValues .single
  | .count _ filter _ => Filter.operands filter
  | .insert _ values => values.map Prod.snd
  | .update _ values filter => values.map Prod.snd ++ Filter.operands filter
  | .delete _ filter => Filter.operands filter
  | .findEntities _ config _ filter options =>
      Filter.operands filter ++ pageValues (options.page.getD ⟨1, config.pageSize⟩)
  | .findEntity _ config _ filter options =>
      Filter.operands filter ++ pageValues (pageOfOne config options)
  | .countEntities _ _ filter => Filter.operands filter
  | .createTable _ _ columns => columns.filterMap fun column => column.spec.initial
  | .alterTable _ changes => changes.filterMap fun change => change.spec?.bind ColumnSpec.initial

end Request

end EntityMapper
