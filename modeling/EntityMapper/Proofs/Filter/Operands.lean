import EntityMapper.Proofs.Filter.Terms
import EntityMapper.Proofs.Statement.Placeholder

set_option autoImplicit false

/-! The values that the condition of a filter binds: the operands of the filter, depth first, as
many as the filter counts. -/

namespace EntityMapper

open Fragment

namespace Condition

@[simp] theorem params_fragment (column : ColumnRef) (condition : Condition) :
    (condition.fragment column).params = condition.operands := by
  cases condition <;> simp [fragment, comparison, range, membership, operands]

/-- Each operator takes as many values as it counts. -/
theorem paramCount_eq (condition : Condition) :
    condition.paramCount = condition.operands.length := by
  cases condition <;> rfl

theorem plain_comparison (column : ColumnRef) {operator : String} (value : Value)
    (unmarked : Placeholder.Unmarked operator.toList) :
    (comparison column operator value).Plain := by
  rw [comparison, plain_append, plain_append, plain_words]
  exact ⟨⟨plain_column column, unmarked⟩, plain_bind value⟩

theorem plain_range (column : ColumnRef) {operator : String} (least greatest : Value)
    (unmarked : Placeholder.Unmarked operator.toList) :
    (range column operator least greatest).Plain := by
  simp only [range, plain_append, plain_words, plain_bind, plain_column, unmarked, and_true]
  decide

theorem plain_membership (column : ColumnRef) {operator : String} (values : List Value)
    (unmarked : Placeholder.Unmarked operator.toList) :
    (membership column operator values).Plain := by
  simp only [membership, plain_append, plain_words, plain_column, unmarked, plain_bindList,
    true_and]
  decide

theorem plain_fragment (column : ColumnRef) (condition : Condition) :
    (condition.fragment column).Plain := by
  cases condition with
  | isNull =>
      rw [fragment, plain_append, plain_words]
      exact ⟨plain_column column, by decide⟩
  | between least greatest => exact plain_range column least greatest (by decide)
  | notBetween least greatest => exact plain_range column least greatest (by decide)
  | inList values => exact plain_membership column values (by decide)
  | notInList values => exact plain_membership column values (by decide)
  | _ => exact plain_comparison column _ (by decide)

end Condition

namespace Filter

@[simp] theorem params_parenthesised (fragment : Fragment) :
    (parenthesised fragment).params = fragment.params := by
  rw [parenthesised, params_append, params_append, params_words, params_words, List.nil_append,
    List.append_nil]

theorem plain_parenthesised {fragment : Fragment} (plain : fragment.Plain) :
    (parenthesised fragment).Plain := by
  simp only [parenthesised, plain_append, plain_words, plain, and_true]
  decide

mutual

theorem criterionParamCount_eq : (criterion : Criterion) →
    criterionParamCount criterion = (criterionOperands criterion).length
  | .column _ condition => condition.paramCount_eq
  | .conjunction filters => groupParamCount_eq filters
  | .disjunction filters => groupParamCount_eq filters

/-- The count of a filter is the number of its operands. -/
theorem paramCount_eq : (filter : List Criterion) → paramCount filter = (operands filter).length
  | [] => rfl
  | criterion :: rest => by
      rw [paramCount, operands, List.length_append, criterionParamCount_eq criterion,
        paramCount_eq rest]

theorem groupParamCount_eq : (filters : List (List Criterion)) →
    groupParamCount filters = (groupOperands filters).length
  | [] => rfl
  | filter :: rest => by
      rw [groupParamCount, groupOperands, List.length_append, paramCount_eq filter,
        groupParamCount_eq rest]

end

/-- Grouping terms neither adds nor drops values. -/
theorem params_group (terms : List Fragment) :
    (group terms).flatMap params = terms.flatMap params := by
  cases terms with
  | nil => rfl
  | cons first rest => simp [group]

theorem params_alternative (shared : Bool) (groups : List Fragment) :
    (alternative shared groups).flatMap params = groups.flatMap params := by
  cases groups with
  | nil => rfl
  | cons first rest => cases shared <;> simp [alternative]

theorem grouped_plain : Grouped Fragment.Plain where
  parentheses _ plain := plain_parenthesised plain
  all _ plain := plain_joined (by decide) plain
  any _ plain := plain_joined (by decide) plain

mutual

theorem params_criterionTerms (shared : Bool) : (criterion : Criterion) →
    (criterionTerms shared criterion).flatMap params = criterionOperands criterion
  | .column column condition => by
      rw [criterionTerms, criterionOperands, List.flatMap_singleton, Condition.params_fragment]
  | .conjunction filters => by
      rw [criterionTerms, criterionOperands, params_groups filters]
  | .disjunction filters => by
      rw [criterionTerms, criterionOperands, params_alternative, params_groups filters]

theorem params_terms (shared : Bool) : (filter : List Criterion) →
    (terms shared filter).flatMap params = operands filter
  | [] => rfl
  | criterion :: rest => by
      rw [terms, operands, List.flatMap_append, params_criterionTerms shared criterion,
        params_terms shared rest]

theorem params_groups : (filters : List (List Criterion)) →
    (groups filters).flatMap params = groupOperands filters
  | [] => rfl
  | filter :: rest => by
      rw [groups, groupOperands, List.flatMap_append, params_group, params_terms _ filter,
        params_groups rest]

end

@[simp] theorem params_clause (filter : Filter) : (clause filter).params = operands filter := by
  have bound := params_terms (1 < filter.length) filter
  rw [clause]
  split
  · rename_i nothing
    rw [← bound, ← topTerms, List.isEmpty_iff.1 nothing]
    rfl
  · rw [params_append, params_words, params_joined, List.nil_append, topTerms, bound]

@[simp] theorem params_nested (filter : Filter) : (nested filter).params = operands filter := by
  rw [nested, params_joined, params_group, topTerms, params_terms]

theorem plain_clause (filter : Filter) : (clause filter).Plain := by
  rw [clause]
  split
  · exact plain_empty
  · rw [plain_append, plain_words]
    refine ⟨by decide, grouped_plain.condition ?_⟩
    exact fun entry member => Condition.plain_fragment entry.1 entry.2

mutual

theorem criterionOperands_mapColumns (change : ColumnRef → ColumnRef) : (criterion : Criterion) →
    criterionOperands (mapCriterionColumns change criterion) = criterionOperands criterion
  | .column column condition => rfl
  | .conjunction filters => by
      rw [mapCriterionColumns, criterionOperands, criterionOperands,
        groupOperands_mapColumns change filters]
  | .disjunction filters => by
      rw [mapCriterionColumns, criterionOperands, criterionOperands,
        groupOperands_mapColumns change filters]

/-- Other columns leave the values and their order as they are. -/
theorem operands_mapColumns (change : ColumnRef → ColumnRef) : (filter : List Criterion) →
    operands (mapColumns change filter) = operands filter
  | [] => rfl
  | criterion :: rest => by
      rw [mapColumns, operands, operands, criterionOperands_mapColumns change criterion,
        operands_mapColumns change rest]

theorem groupOperands_mapColumns (change : ColumnRef → ColumnRef) :
    (filters : List (List Criterion)) →
      groupOperands (mapGroupColumns change filters) = groupOperands filters
  | [] => rfl
  | filter :: rest => by
      rw [mapGroupColumns, groupOperands, groupOperands, operands_mapColumns change filter,
        groupOperands_mapColumns change rest]

end

end Filter

end EntityMapper
