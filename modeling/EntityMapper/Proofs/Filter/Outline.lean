import EntityMapper.Proofs.Filter.Columns
import EntityMapper.Proofs.Statement.Outline

set_option autoImplicit false

/-! The outline of the condition of a filter: its columns, in the order of the conditions. -/

namespace EntityMapper

open Fragment

namespace ColumnRef

/-- The names of a reference, in the order in which they are written. -/
def names (column : ColumnRef) : List String := column.table.toList ++ [column.column]

end ColumnRef

namespace Fragment

@[simp] theorem names_column (reference : ColumnRef) :
    (column reference).names = reference.names := by
  rw [column, ColumnRef.names]
  split
  · rename_i table labelled
    rw [labelled]
    rfl
  · rename_i bare
    rw [bare]
    rfl

end Fragment

namespace Condition

theorem clear_comparison (column : ColumnRef) {operator : String} (value : Value)
    (divides : Divides operator) : (comparison column operator value).Clear :=
  (clear_column column).divided divides (clear_bind value)

theorem clear_range (column : ColumnRef) {operator : String} (least greatest : Value)
    (divides : Divides operator) : (range column operator least greatest).Clear := by
  have opened : (words "(" ++ Fragment.column column).Clear := (clear_column column).led (by decide)
  exact ((opened.divided divides (clear_bind least)).divided (by decide)
    (clear_bind greatest)).ended (by decide)

theorem clear_membership (column : ColumnRef) {operator : String} (values : List Value)
    (divides : Divides operator) : (membership column operator values).Clear :=
  ((clear_column column).divided divides (clear_bindList values)).ended (by decide)

theorem clear_fragment (column : ColumnRef) (condition : Condition) :
    (condition.fragment column).Clear := by
  cases condition with
  | isNull => exact (clear_column column).ended (by decide)
  | between least greatest => exact clear_range column least greatest (by decide)
  | notBetween least greatest => exact clear_range column least greatest (by decide)
  | inList values => exact clear_membership column values (by decide)
  | notInList values => exact clear_membership column values (by decide)
  | _ => exact clear_comparison column _ (by decide)

@[simp] theorem names_fragment (column : ColumnRef) (condition : Condition) :
    (condition.fragment column).names = column.names := by
  cases condition <;> simp [fragment, comparison, range, membership]

theorem rename_fragment {change : String → String} {left right : ColumnRef}
    (same : (Fragment.column left).rename change = (Fragment.column right).rename change)
    (condition : Condition) :
    (condition.fragment left).rename change = (condition.fragment right).rename change := by
  cases condition <;> simp [fragment, comparison, range, membership, same]

end Condition

namespace Filter

theorem grouped_clear : Grouped Fragment.Clear where
  parentheses _ clear := (clear.led (by decide)).ended (by decide)
  all _ clear := clear_joined (by decide) clear
  any _ clear := clear_joined (by decide) clear

theorem clear_clause (filter : Filter) : (clause filter).Clear := by
  have condition : (joined " AND " (topTerms filter)).Clear :=
    grouped_clear.condition fun entry _ => Condition.clear_fragment entry.1 entry.2
  rw [clause]
  split
  · exact clear_empty
  · exact condition.led (by decide)

theorem opens_clause (filter : Filter) : (clause filter).opens = false := by
  rw [clause]
  split
  · exact opens_empty
  · exact opens_led (by decide) _

@[simp] theorem names_parenthesised (fragment : Fragment) :
    (parenthesised fragment).names = fragment.names := by
  rw [parenthesised, names_append, names_append, names_words, names_words, List.nil_append,
    List.append_nil]

theorem names_group (terms : List Fragment) :
    (group terms).flatMap names = terms.flatMap names := by
  cases terms with
  | nil => rfl
  | cons first rest => simp [group]

theorem names_alternative (shared : Bool) (groups : List Fragment) :
    (alternative shared groups).flatMap names = groups.flatMap names := by
  cases groups with
  | nil => rfl
  | cons first rest => cases shared <;> simp [alternative]

mutual

theorem names_criterionTerms (shared : Bool) : (criterion : Criterion) →
    (criterionTerms shared criterion).flatMap names =
      (criterionConditions criterion).flatMap fun entry => entry.1.names
  | .column column condition => by
      rw [criterionTerms, criterionConditions, List.flatMap_singleton, List.flatMap_singleton,
        Condition.names_fragment]
  | .conjunction filters => by
      rw [criterionTerms, criterionConditions, names_groups filters]
  | .disjunction filters => by
      rw [criterionTerms, criterionConditions, names_alternative, names_groups filters]

theorem names_terms (shared : Bool) : (filter : List Criterion) →
    (terms shared filter).flatMap names =
      (conditions filter).flatMap fun entry => entry.1.names
  | [] => rfl
  | criterion :: rest => by
      rw [terms, conditions, List.flatMap_append, List.flatMap_append,
        names_criterionTerms shared criterion, names_terms shared rest]

theorem names_groups : (filters : List (List Criterion)) →
    (groups filters).flatMap names =
      (groupConditions filters).flatMap fun entry => entry.1.names
  | [] => rfl
  | filter :: rest => by
      rw [groups, groupConditions, List.flatMap_append, List.flatMap_append, names_group,
        names_terms _ filter, names_groups rest]

end

/-- The names of a clause are those of the columns of its conditions. -/
@[simp] theorem names_clause (filter : Filter) :
    (clause filter).names = (conditions filter).flatMap fun entry => entry.1.names := by
  by_cases vacant : conditions filter = []
  · rw [clause_of_vacant vacant, vacant]
    rfl
  · rw [clause_of_occupied vacant, names_append, names_words, names_joined, List.nil_append,
      topTerms, names_terms]

section

variable {change : String → String}

theorem rename_group {left right : List Fragment}
    (same : left.map (rename change) = right.map (rename change)) :
    (group left).map (rename change) = (group right).map (rename change) := by
  have vacant : left.isEmpty = right.isEmpty := by simpa using congrArg List.isEmpty same
  rw [group, group, vacant]
  split
  · rfl
  · simp [parenthesised, same]

theorem rename_alternative (shared : Bool) {left right : List Fragment}
    (same : left.map (rename change) = right.map (rename change)) :
    (alternative shared left).map (rename change) =
      (alternative shared right).map (rename change) := by
  have vacant : left.isEmpty = right.isEmpty := by simpa using congrArg List.isEmpty same
  rw [alternative, alternative, vacant]
  split
  · rfl
  · cases shared <;> simp [parenthesised, same]

end

/-- Columns take the place of others that differ in names only, which a change of names levels. -/
def Respells (change : String → String) (swap : ColumnRef → ColumnRef) : Prop :=
  ∀ column, (Fragment.column (swap column)).rename change = (Fragment.column column).rename change

section

variable {change : String → String} {swap : ColumnRef → ColumnRef}

mutual

theorem rename_criterionTerms (respells : Respells change swap) (shared : Bool) :
    (criterion : Criterion) →
      (criterionTerms shared (mapCriterionColumns swap criterion)).map (rename change) =
        (criterionTerms shared criterion).map (rename change)
  | .column column condition => by
      rw [mapCriterionColumns, criterionTerms, criterionTerms, List.map_singleton,
        List.map_singleton, Condition.rename_fragment (respells column)]
  | .conjunction filters => by
      rw [mapCriterionColumns, criterionTerms, criterionTerms, rename_groups respells filters]
  | .disjunction filters => by
      rw [mapCriterionColumns, criterionTerms, criterionTerms]
      exact rename_alternative shared (rename_groups respells filters)

theorem rename_terms (respells : Respells change swap) (shared : Bool) :
    (filter : List Criterion) →
      (terms shared (mapColumns swap filter)).map (rename change) =
        (terms shared filter).map (rename change)
  | [] => rfl
  | criterion :: rest => by
      rw [mapColumns, terms, terms, List.map_append, List.map_append,
        rename_criterionTerms respells shared criterion, rename_terms respells shared rest]

theorem rename_groups (respells : Respells change swap) : (filters : List (List Criterion)) →
    (groups (mapGroupColumns swap filters)).map (rename change) =
      (groups filters).map (rename change)
  | [] => rfl
  | filter :: rest => by
      rw [mapGroupColumns, groups, groups, List.map_append, List.map_append,
        rename_groups respells rest, length_mapColumns,
        rename_group (rename_terms respells _ filter)]

end

/-- Columns that differ in names only give clauses that differ in names only. -/
theorem rename_clause (respells : Respells change swap) (filter : Filter) :
    (clause (mapColumns swap filter)).rename change = (clause filter).rename change := by
  have terms := rename_terms respells (1 < filter.length) filter
  by_cases vacant : conditions filter = []
  · have nothing : conditions (mapColumns swap filter) = [] := by
      rw [conditions_mapColumns, vacant]
      rfl
    rw [clause_of_vacant vacant, clause_of_vacant nothing]
  · have something : conditions (mapColumns swap filter) ≠ [] := by
      rw [conditions_mapColumns]
      exact fun nothing => vacant (List.map_eq_nil_iff.1 nothing)
    rw [clause_of_occupied vacant, clause_of_occupied something, rename_append, rename_append,
      rename_joined, rename_joined, topTerms, topTerms, length_mapColumns, terms]

end

/-- Columns of which the labels stay. -/
def respelled (spelling : ColumnRef → String) (column : ColumnRef) : ColumnRef :=
  ⟨column.table, spelling column⟩

theorem respells_respelled (spelling : ColumnRef → String) :
    Respells (fun _ => "") (respelled spelling) := by
  intro column
  obtain ⟨table, name⟩ := column
  cases table <;> rfl

/-- Clauses on columns that are spelled in two ways have the same text iff all columns of the filter
are spelled alike. -/
theorem text_clause_eq_iff (first second : ColumnRef → String) (filter : Filter) :
    (clause (mapColumns (respelled first) filter)).text =
        (clause (mapColumns (respelled second) filter)).text ↔
      ∀ entry ∈ conditions filter, first entry.1 = second entry.1 := by
  constructor
  · intro sameText
    have sameParts : (clause (mapColumns (respelled first) filter)).parts =
        (clause (mapColumns (respelled second) filter)).parts := by
      have left := (clear_clause (mapColumns (respelled first) filter)).parts?
      rw [sameText, (clear_clause (mapColumns (respelled second) filter)).parts?] at left
      exact (Option.some.inj left).symm
    have alike := (rename_clause (respells_respelled first) filter).trans
      (rename_clause (respells_respelled second) filter).symm
    have sameNames := congrArg names (eq_of_parts alike sameParts)
    rw [names_clause, names_clause, conditions_mapColumns, conditions_mapColumns,
      List.flatMap_map, List.flatMap_map] at sameNames
    -- Each column has as many names in both ways, so that names can be told off one by one.
    generalize conditions filter = entries at sameNames
    induction entries with
    | nil => exact fun entry member => absurd member List.not_mem_nil
    | cons entry rest ih =>
        simp only [List.flatMap_cons, respelled, ColumnRef.names, List.append_assoc,
          List.append_cancel_left_eq, List.cons_append, List.nil_append, List.cons.injEq]
          at sameNames
        rw [List.forall_mem_cons]
        exact ⟨sameNames.1, ih sameNames.2⟩
  · intro same
    have columns : mapColumns (respelled first) filter = mapColumns (respelled second) filter :=
      mapColumns_congr filter fun entry member =>
        congrArg (ColumnRef.mk entry.1.table) (same entry member)
    rw [columns]

end Filter

end EntityMapper
