import EntityMapper.Proofs.Statement.Structure

set_option autoImplicit false

/-! What is left of a description, and of the statement made from it, when all values are veiled:
null stands in the place of each. -/

namespace EntityMapper

/-- A piece without its values. -/
def Piece.veiled : Piece → Piece
  | .words text => .words text
  | .name spelling => .name spelling
  | .bind _ => .bind .null
  | .prepared text params => .prepared text (params.map fun _ => .null)

/-- What can be seen of a statement when its values are veiled: its text and the number of its
parameters. -/
def Statement.form (statement : Statement) : String × Nat :=
  (statement.text, statement.params.length)

namespace Fragment

/-- The fragment without its values. -/
def veiled (fragment : Fragment) : Fragment := ⟨fragment.pieces.map Piece.veiled⟩

theorem text_veiled (fragment : Fragment) : fragment.veiled.text = fragment.text := by
  rw [text, veiled, text, List.map_map]
  refine congrArg (fun view => String.join (fragment.pieces.map view)) (funext fun piece => ?_)
  cases piece <;> rfl

theorem fault?_veiled (fragment : Fragment) : fragment.veiled.fault? = fragment.fault? := by
  rw [fault?, veiled, fault?, List.findSome?_map]
  refine congrArg (List.findSome? · fragment.pieces) (funext fun piece => ?_)
  cases piece <;> rfl

theorem length_params_veiled (fragment : Fragment) :
    fragment.veiled.params.length = fragment.params.length := by
  rw [params, veiled, params, List.flatMap_map, List.length_flatMap, List.length_flatMap]
  refine congrArg (fun count => (fragment.pieces.map count).sum) (funext fun piece => ?_)
  cases piece with
  | prepared text params => exact List.length_map _
  | _ => rfl

/-- Fragments that differ in their values only give statements of one form, or have the same
fault. -/
theorem form_statement {left right : Fragment} (alike : left.veiled = right.veiled) :
    left.statement.map Statement.form = right.statement.map Statement.form := by
  have texts : left.text = right.text := by
    rw [← text_veiled left, alike, text_veiled]
  have faults : left.fault? = right.fault? := by
    rw [← fault?_veiled left, alike, fault?_veiled]
  have counts : left.params.length = right.params.length := by
    rw [← length_params_veiled left, alike, length_params_veiled]
  rw [statement, checked, statement, checked, faults]
  cases right.fault? with
  | some fault => rfl
  | none => exact congrArg Except.ok (Prod.ext texts counts)

/-- A statement can be made in steps: its beginning is checked, then it fails if there is nothing to
write, and then the whole is checked. If the wholes differ in their values only, then the same comes
of both. -/
theorem form_stepped {first : Fragment} {left right : Fragment → Fragment}
    (alike : (left first).veiled = (right first).veiled) (vacant : Bool) (fault : QueryFault) :
    Except.map Statement.form ((do
        let start ← first.checked
        if vacant then throw fault
        (left start).checked) >>= statement) =
      Except.map Statement.form ((do
        let start ← first.checked
        if vacant then throw fault
        (right start).checked) >>= statement) := by
  have finished (fragment : Fragment) : (fragment.checked >>= statement) = fragment.statement := by
    rw [statement]
    cases sound : fragment.fault? with
    | some fault => rw [checked, sound]; rfl
    | none =>
        rw [checked_of_sound sound]
        exact statement_of_sound sound
  rw [bind_assoc, bind_assoc]
  cases sound : first.fault? with
  | some fault => rw [checked, sound]; rfl
  | none =>
      rw [checked_of_sound sound]
      cases vacant with
      | true => rfl
      | false =>
          have forms := form_statement alike
          rw [← finished, ← finished (right first)] at forms
          exact forms

@[simp] theorem veiled_empty : empty.veiled = empty := rfl

@[simp] theorem veiled_append (left right : Fragment) :
    (left ++ right).veiled = left.veiled ++ right.veiled := by
  rw [veiled, pieces_append, List.map_append]
  rfl

@[simp] theorem veiled_words (text : String) : (words text).veiled = words text := rfl

@[simp] theorem veiled_name (spelling : String) :
    (Fragment.name spelling).veiled = Fragment.name spelling := rfl

@[simp] theorem veiled_bind (value : Value) : (bind value).veiled = bind .null := rfl

@[simp] theorem veiled_column (reference : ColumnRef) :
    (column reference).veiled = column reference := by
  obtain ⟨table, spelling⟩ := reference
  cases table <;> rfl

@[simp] theorem veiled_table (reference : TableRef) :
    (table reference).veiled = table reference := by
  obtain ⟨spelling, alias?⟩ := reference
  cases alias? <;> rfl

@[simp] theorem veiled_joined (separator : String) (fragments : List Fragment) :
    (joined separator fragments).veiled = joined separator (fragments.map veiled) := by
  induction fragments with
  | nil => rfl
  | cons first rest ih =>
      cases rest with
      | nil => rfl
      | cons second others =>
          rw [joined_cons_cons, veiled_append, veiled_append, ih, veiled_words]
          rfl

@[simp] theorem veiled_listed (keyword : String) (fragments : List Fragment) :
    (listed keyword fragments).veiled = listed keyword (fragments.map veiled) := by
  cases fragments with
  | nil => rfl
  | cons first rest =>
      rw [listed, List.isEmpty_cons, if_neg Bool.false_ne_true, veiled_append, veiled_joined]
      rfl

/-- A list of placeholders hangs on the number of its values alone. -/
@[simp] theorem veiled_bindList (values : List Value) :
    (bindList values).veiled = bindList (values.map fun _ => .null) := by
  cases values with
  | nil => rfl
  | cons first rest => simp [bindList, Function.comp_def]

end Fragment

open Fragment

namespace Condition

/-- The condition with its operator, but without its operands. A list keeps its length. -/
def veiled : Condition → Condition
  | .isNull => .isNull
  | .eq _ => .eq .null
  | .ne _ => .ne .null
  | .gt _ => .gt .null
  | .gte _ => .gte .null
  | .lt _ => .lt .null
  | .lte _ => .lte .null
  | .is _ => .is .null
  | .isNot _ => .isNot .null
  | .between _ _ => .between .null .null
  | .notBetween _ _ => .notBetween .null .null
  | .inList values => .inList (values.map fun _ => .null)
  | .notInList values => .notInList (values.map fun _ => .null)
  | .like _ => .like .null
  | .notLike _ => .notLike .null

theorem veiled_fragment (column : ColumnRef) (condition : Condition) :
    (condition.veiled.fragment column).veiled = (condition.fragment column).veiled := by
  cases condition <;> simp [veiled, fragment, comparison, range, membership]

end Condition

namespace Filter

mutual

def veiledCriterion : Criterion → Criterion
  | .column column condition => .column column condition.veiled
  | .conjunction filters => .conjunction (veiledGroup filters)
  | .disjunction filters => .disjunction (veiledGroup filters)

/-- The filter with its columns and operators, but without its operands, at any depth. -/
def veiled : List Criterion → List Criterion
  | [] => []
  | criterion :: rest => veiledCriterion criterion :: veiled rest

def veiledGroup : List (List Criterion) → List (List Criterion)
  | [] => []
  | filter :: rest => veiled filter :: veiledGroup rest

end

theorem length_veiled (filter : List Criterion) : (veiled filter).length = filter.length := by
  induction filter with
  | nil => rfl
  | cons criterion rest ih => rw [veiled, List.length_cons, List.length_cons, ih]

mutual

theorem mapColumns_veiledCriterion (change : ColumnRef → ColumnRef) : (criterion : Criterion) →
    mapCriterionColumns change (veiledCriterion criterion) =
      veiledCriterion (mapCriterionColumns change criterion)
  | .column _ _ => rfl
  | .conjunction filters => by
      rw [veiledCriterion, mapCriterionColumns, mapCriterionColumns, veiledCriterion,
        mapColumns_veiledGroup change filters]
  | .disjunction filters => by
      rw [veiledCriterion, mapCriterionColumns, mapCriterionColumns, veiledCriterion,
        mapColumns_veiledGroup change filters]

theorem mapColumns_veiled (change : ColumnRef → ColumnRef) : (filter : List Criterion) →
    mapColumns change (veiled filter) = veiled (mapColumns change filter)
  | [] => rfl
  | criterion :: rest => by
      rw [veiled, mapColumns, mapColumns, veiled, mapColumns_veiledCriterion change criterion,
        mapColumns_veiled change rest]

theorem mapColumns_veiledGroup (change : ColumnRef → ColumnRef) :
    (filters : List (List Criterion)) →
      mapGroupColumns change (veiledGroup filters) = veiledGroup (mapGroupColumns change filters)
  | [] => rfl
  | filter :: rest => by
      rw [veiledGroup, mapGroupColumns, mapGroupColumns, veiledGroup,
        mapColumns_veiled change filter, mapColumns_veiledGroup change rest]

end

theorem veiled_group (terms : List Fragment) :
    (group terms).map Fragment.veiled = group (terms.map Fragment.veiled) := by
  cases terms <;> simp [group, parenthesised]

theorem veiled_alternative (shared : Bool) (groups : List Fragment) :
    (alternative shared groups).map Fragment.veiled =
      alternative shared (groups.map Fragment.veiled) := by
  cases groups with
  | nil => rfl
  | cons first rest => cases shared <;> simp [alternative, parenthesised]

mutual

theorem veiled_criterionTerms (shared : Bool) : (criterion : Criterion) →
    (criterionTerms shared (veiledCriterion criterion)).map Fragment.veiled =
      (criterionTerms shared criterion).map Fragment.veiled
  | .column column condition => congrArg (fun term => [term]) (condition.veiled_fragment column)
  | .conjunction filters => veiled_groups filters
  | .disjunction filters => by
      rw [veiledCriterion, criterionTerms, criterionTerms, veiled_alternative, veiled_alternative,
        veiled_groups filters]

theorem veiled_terms (shared : Bool) : (filter : List Criterion) →
    (terms shared (veiled filter)).map Fragment.veiled = (terms shared filter).map Fragment.veiled
  | [] => rfl
  | criterion :: rest => by
      rw [veiled, terms, terms, List.map_append, List.map_append,
        veiled_criterionTerms shared criterion, veiled_terms shared rest]

theorem veiled_groups : (filters : List (List Criterion)) →
    (groups (veiledGroup filters)).map Fragment.veiled = (groups filters).map Fragment.veiled
  | [] => rfl
  | filter :: rest => by
      rw [veiledGroup, groups, groups, List.map_append, List.map_append, veiled_group,
        veiled_group, length_veiled, veiled_terms _ filter, veiled_groups rest]

end

/-- What is written for a filter apart from its values hangs on the veiled filter alone. -/
@[simp] theorem veiled_clause (filter : Filter) :
    (clause (veiled filter)).veiled = (clause filter).veiled := by
  have through (filter : Filter) : (clause filter).veiled =
      if ((topTerms filter).map Fragment.veiled).isEmpty then .empty
      else .words " WHERE " ++ .joined " AND " ((topTerms filter).map Fragment.veiled) := by
    rw [clause, List.isEmpty_map]
    split <;> simp
  rw [through, through, topTerms, topTerms, length_veiled, veiled_terms]

end Filter

@[simp] theorem SelectItem.veiled_clause (items : List SelectItem) :
    (clause items).veiled = clause items := by
  have fixed (item : SelectItem) : item.fragment.veiled = item.fragment := by
    rw [fragment]
    cases item.alias? <;> cases item.aggregate <;> simp
  rw [clause]
  split <;> simp [Function.comp_def, fixed]

@[simp] theorem Join.veiled_clause (joins : List Join) : (clause joins).veiled = clause joins := by
  have fixed (join : Join) : join.fragment.veiled = join.fragment := by simp [fragment]
  simp [clause, Function.comp_def, fixed]

@[simp] theorem OrderBy.veiled_clause (entries : List OrderBy) :
    (clause entries).veiled = clause entries := by
  have fixed (entry : OrderBy) : entry.fragment.veiled = entry.fragment := by simp [fragment]
  simp [clause, Function.comp_def, fixed]

@[simp] theorem veiled_groupByClause (columns : List ColumnRef) :
    (groupByClause columns).veiled = groupByClause columns := by
  simp [groupByClause, Function.comp_def]

/-- All pages are written alike. -/
theorem Page.veiled_clause (page other : Page) : page.clause.veiled = other.clause.veiled := rfl

namespace FindOptions

/-- The options with the initial page, whatever page is asked for. -/
def veiled (options : FindOptions) : FindOptions := { options with page := some .initial }

end FindOptions

/-- The columns of values. -/
def veiledColumns (values : List (String × Value)) : List (String × Value) :=
  values.map fun entry => (entry.1, .null)

namespace ColumnSpec

/-- The attributes of a column, with a default where it has one, but without the value of it. -/
def veiled (spec : ColumnSpec) : ColumnSpec :=
  { spec with initial := spec.initial.map fun _ => .null }

@[simp] theorem veiled_fragment (type : DataType) (spec : ColumnSpec) :
    (spec.veiled.fragment type).veiled = (spec.fragment type).veiled := by
  have same : spec.veiled.initialFragment.veiled = spec.initialFragment.veiled := by
    obtain ⟨size, scale, nullable, primaryKey, unique, autoIncrement, initial⟩ := spec
    cases initial <;> rfl
  simp only [fragment, veiled_append, same]
  rfl

end ColumnSpec

namespace TableColumn

def veiled (column : TableColumn) : TableColumn := { column with spec := column.spec.veiled }

@[simp] theorem veiled_fragment (column : TableColumn) :
    column.veiled.fragment.veiled = column.fragment.veiled := by
  simp only [fragment, veiled_append, veiled, ColumnSpec.veiled_fragment]
  rfl

end TableColumn

namespace TableChange

def veiled : TableChange → TableChange
  | .add column placement => .add column.veiled placement
  | .modify column placement => .modify column.veiled placement
  | .drop column => .drop column

@[simp] theorem veiled_fragment (change : TableChange) :
    change.veiled.fragment.veiled = change.fragment.veiled := by
  cases change with
  | drop column => rfl
  | _ => simp [veiled, fragment, placed, TableColumn.veiled]

end TableChange

namespace Query

theorem veiled_paged (table : TableRef) (filter : Filter) (options : FindOptions)
    (page other : Page) :
    (paged table (Filter.veiled filter) options.veiled other).veiled =
      (paged table filter options page).veiled := by
  simp [paged, source, FindOptions.veiled, page.veiled_clause other]

theorem veiled_count (table : TableRef) (filter : Filter) (options : CountOptions) :
    (count table (Filter.veiled filter) options).veiled = (count table filter options).veiled := by
  simp [count]

theorem veiled_delete (table : String) (filter : Filter) :
    (delete table (Filter.veiled filter)).veiled = (delete table filter).veiled := by
  simp [delete]

theorem veiled_inserted (table : String) (values : List (String × Value)) :
    (inserted table (veiledColumns values)).veiled = (inserted table values).veiled := by
  simp [inserted, insertColumns, veiledColumns, Function.comp_def]

theorem veiled_updated (table : String) (values : List (String × Value)) (filter : Filter) :
    (updated table (veiledColumns values) (Filter.veiled filter)).veiled =
      (updated table values filter).veiled := by
  simp [updated, assignment, veiledColumns, Function.comp_def]

theorem form_insert (table : String) (values : List (String × Value)) :
    (insert table (veiledColumns values) >>= statement).map Statement.form =
      (insert table values >>= statement).map Statement.form := by
  have columns : insertColumns (veiledColumns values) = insertColumns values := by
    simp [insertColumns, veiledColumns, Function.comp_def]
  have alike := veiled_inserted table values
  rw [inserted, columns] at alike
  have same : (veiledColumns values).isEmpty = values.isEmpty := List.isEmpty_map
  rw [insert, insert, columns, same]
  refine form_stepped ?_ _ _
  exact alike

theorem form_update (table : String) (values : List (String × Value)) (filter : Filter) :
    (update table (veiledColumns values) (Filter.veiled filter) >>= statement).map Statement.form =
      (update table values filter >>= statement).map Statement.form := by
  have same : (veiledColumns values).isEmpty = values.isEmpty := List.isEmpty_map
  rw [update, update, same]
  refine form_stepped ?_ _ _
  exact veiled_updated table values filter

end Query

namespace Table

theorem form_create (table : String) (ifNotExists : Bool) (columns : List TableColumn) :
    (create table ifNotExists (columns.map TableColumn.veiled) >>= statement).map Statement.form =
      (create table ifNotExists columns >>= statement).map Statement.form := by
  rw [create, create, List.isEmpty_map]
  split
  · rfl
  · refine form_statement ?_
    simp [Function.comp_def]

theorem form_alter (table : String) (changes : List TableChange) :
    (alter table (changes.map TableChange.veiled) >>= statement).map Statement.form =
      (alter table changes >>= statement).map Statement.form := by
  rw [alter, alter, List.isEmpty_map]
  split
  · rfl
  · refine form_statement ?_
    simp [Function.comp_def]

end Table

namespace Draft

/-- The description without its values. -/
def veiled : Draft → Draft
  | .find table filter options => .find table (Filter.veiled filter) options.veiled
  | .findOne table filter options => .findOne table (Filter.veiled filter) options.veiled
  | .count table filter options => .count table (Filter.veiled filter) options
  | .insert table values => .insert table (veiledColumns values)
  | .update table values filter => .update table (veiledColumns values) (Filter.veiled filter)
  | .delete table filter => .delete table (Filter.veiled filter)
  | .createTable table ifNotExists columns =>
      .createTable table ifNotExists (columns.map TableColumn.veiled)
  | .alterTable table changes => .alterTable table (changes.map TableChange.veiled)
  | .dropTable table ifExists => .dropTable table ifExists
  | .renameTable source target => .renameTable source target

/-- The form of a statement, or the fault instead of it, hangs on the veiled description alone. -/
theorem form_compile (draft : Draft) :
    draft.veiled.compile.map Statement.form = draft.compile.map Statement.form := by
  cases draft with
  | find table filter options => exact form_statement (Query.veiled_paged table filter options _ _)
  | findOne table filter options =>
      exact form_statement (Query.veiled_paged table filter options _ _)
  | count table filter options => exact form_statement (Query.veiled_count table filter options)
  | insert table values => exact Query.form_insert table values
  | update table values filter => exact Query.form_update table values filter
  | delete table filter => exact form_statement (Query.veiled_delete table filter)
  | createTable table ifNotExists columns => exact Table.form_create table ifNotExists columns
  | alterTable table changes => exact Table.form_alter table changes
  | dropTable table ifExists => rfl
  | renameTable source target => rfl

end Draft

end EntityMapper
