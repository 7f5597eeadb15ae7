import EntityMapper.Proofs.Filter.Preservation

set_option autoImplicit false

/-! Filters with other columns: the same conditions, on the columns that take their place. -/

namespace EntityMapper.Filter

open Fragment

mutual

theorem criterionConditions_mapColumns (change : ColumnRef → ColumnRef) :
    (criterion : Criterion) →
      criterionConditions (mapCriterionColumns change criterion) =
        (criterionConditions criterion).map fun entry => (change entry.1, entry.2)
  | .column column condition => rfl
  | .conjunction filters => by
      rw [mapCriterionColumns, criterionConditions, criterionConditions,
        groupConditions_mapColumns change filters]
  | .disjunction filters => by
      rw [mapCriterionColumns, criterionConditions, criterionConditions,
        groupConditions_mapColumns change filters]

/-- The conditions of a filter with other columns, at any depth. -/
theorem conditions_mapColumns (change : ColumnRef → ColumnRef) : (filter : List Criterion) →
    conditions (mapColumns change filter) =
      (conditions filter).map fun entry => (change entry.1, entry.2)
  | [] => rfl
  | criterion :: rest => by
      rw [mapColumns, conditions, conditions, List.map_append,
        criterionConditions_mapColumns change criterion, conditions_mapColumns change rest]

theorem groupConditions_mapColumns (change : ColumnRef → ColumnRef) :
    (filters : List (List Criterion)) →
      groupConditions (mapGroupColumns change filters) =
        (groupConditions filters).map fun entry => (change entry.1, entry.2)
  | [] => rfl
  | filter :: rest => by
      rw [mapGroupColumns, groupConditions, groupConditions, List.map_append,
        conditions_mapColumns change filter, groupConditions_mapColumns change rest]

end

mutual

theorem mapCriterionColumns_congr {first second : ColumnRef → ColumnRef} :
    (criterion : Criterion) →
      (same : ∀ entry ∈ criterionConditions criterion, first entry.1 = second entry.1) →
      mapCriterionColumns first criterion = mapCriterionColumns second criterion
  | .column column condition, same => by
      rw [mapCriterionColumns, mapCriterionColumns, same (column, condition) List.mem_cons_self]
  | .conjunction filters, same => by
      rw [mapCriterionColumns, mapCriterionColumns, mapGroupColumns_congr filters same]
  | .disjunction filters, same => by
      rw [mapCriterionColumns, mapCriterionColumns, mapGroupColumns_congr filters same]

/-- Only the columns of the conditions count. -/
theorem mapColumns_congr {first second : ColumnRef → ColumnRef} : (filter : List Criterion) →
    (same : ∀ entry ∈ conditions filter, first entry.1 = second entry.1) →
    mapColumns first filter = mapColumns second filter
  | [], _ => rfl
  | criterion :: rest, same => by
      rw [conditions, List.forall_mem_append] at same
      rw [mapColumns, mapColumns, mapCriterionColumns_congr criterion same.1,
        mapColumns_congr rest same.2]

theorem mapGroupColumns_congr {first second : ColumnRef → ColumnRef} :
    (filters : List (List Criterion)) →
      (same : ∀ entry ∈ groupConditions filters, first entry.1 = second entry.1) →
      mapGroupColumns first filters = mapGroupColumns second filters
  | [], _ => rfl
  | filter :: rest, same => by
      rw [groupConditions, List.forall_mem_append] at same
      rw [mapGroupColumns, mapGroupColumns, mapColumns_congr filter same.1,
        mapGroupColumns_congr rest same.2]

end

theorem length_mapColumns (change : ColumnRef → ColumnRef) (filter : Filter) :
    (mapColumns change filter).length = filter.length := by
  induction filter with
  | nil => rfl
  | cons criterion rest ih => rw [mapColumns, List.length_cons, List.length_cons, ih]

/-- A filter is written without a term iff it has no condition at any depth. -/
theorem topTerms_eq_nil (filter : Filter) : topTerms filter = [] ↔ conditions filter = [] := by
  have level : Level (topTerms filter) (value? · filter) := (reads_terms filter).2
  rw [← value?_eq_none (fun _ _ => .no) filter]
  generalize topTerms filter = terms at level
  cases level with
  | nothing nothing => exact ⟨fun _ => nothing _, fun _ => rfl⟩
  | written occupied reads value =>
      have some := value fun _ _ => .no
      exact ⟨fun vacant => absurd vacant occupied, fun nothing => nomatch some.symm.trans nothing⟩

/-- Without a condition at any depth there is no clause. -/
theorem clause_of_vacant {filter : Filter} (vacant : conditions filter = []) :
    clause filter = .empty := by
  rw [clause, (topTerms_eq_nil filter).2 vacant]
  rfl

theorem clause_of_occupied {filter : Filter} (occupied : conditions filter ≠ []) :
    clause filter = .words " WHERE " ++ .joined " AND " (topTerms filter) := by
  have terms : topTerms filter ≠ [] := fun vacant => occupied ((topTerms_eq_nil filter).1 vacant)
  rw [clause, if_neg (by simpa using terms)]

end EntityMapper.Filter
