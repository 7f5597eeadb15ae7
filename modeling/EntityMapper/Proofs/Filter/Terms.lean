import EntityMapper.Filter.Where
import EntityMapper.Proofs.Filter.Meaning

set_option autoImplicit false

/-! What holds of the written conditions of a filter and survives grouping holds of all terms. -/

namespace EntityMapper.Filter

/-- A property of fragments that parentheses, `AND` and `OR` keep. -/
structure Grouped (property : Fragment → Prop) : Prop where
  parentheses : ∀ fragment, property fragment → property (parenthesised fragment)
  all : ∀ terms : List Fragment,
    (∀ term ∈ terms, property term) → property (.joined " AND " terms)
  any : ∀ groups : List Fragment,
    (∀ group ∈ groups, property group) → property (.joined " OR " groups)

namespace Grouped

variable {property : Fragment → Prop}

theorem group (grouped : Grouped property) {terms : List Fragment}
    (each : ∀ term ∈ terms, property term) : ∀ term ∈ group terms, property term := by
  rw [Filter.group]
  split
  · exact fun term member => absurd member List.not_mem_nil
  · rw [List.forall_mem_singleton]
    exact grouped.parentheses _ (grouped.all terms each)

theorem alternative (grouped : Grouped property) (shared : Bool) {groups : List Fragment}
    (each : ∀ group ∈ groups, property group) :
    ∀ term ∈ alternative shared groups, property term := by
  have whole := grouped.any groups each
  rw [Filter.alternative]
  split
  · exact fun term member => absurd member List.not_mem_nil
  · split
    · rw [List.forall_mem_singleton]
      exact grouped.parentheses _ whole
    · rw [List.forall_mem_singleton]
      exact whole

mutual

theorem criterionTerms (grouped : Grouped property) (shared : Bool) : (criterion : Criterion) →
    (∀ entry ∈ criterionConditions criterion, property (entry.2.fragment entry.1)) →
      ∀ term ∈ criterionTerms shared criterion, property term
  | .column column condition, each => by
      rw [Filter.criterionTerms, List.forall_mem_singleton]
      exact each (column, condition) List.mem_cons_self
  | .conjunction filters, each => by
      rw [Filter.criterionTerms]
      exact groups grouped filters each
  | .disjunction filters, each => by
      rw [Filter.criterionTerms]
      exact grouped.alternative shared (groups grouped filters each)

theorem terms (grouped : Grouped property) (shared : Bool) : (filter : List Criterion) →
    (∀ entry ∈ conditions filter, property (entry.2.fragment entry.1)) →
      ∀ term ∈ terms shared filter, property term
  | [], _ => fun term member => absurd member List.not_mem_nil
  | criterion :: rest, each => by
      rw [conditions, List.forall_mem_append] at each
      rw [Filter.terms, List.forall_mem_append]
      exact ⟨criterionTerms grouped shared criterion each.1, terms grouped shared rest each.2⟩

theorem groups (grouped : Grouped property) : (filters : List (List Criterion)) →
    (∀ entry ∈ groupConditions filters, property (entry.2.fragment entry.1)) →
      ∀ group ∈ groups filters, property group
  | [], _ => fun group member => absurd member List.not_mem_nil
  | filter :: rest, each => by
      rw [groupConditions, List.forall_mem_append] at each
      rw [Filter.groups, List.forall_mem_append]
      exact ⟨grouped.group (terms grouped _ filter each.1), groups grouped rest each.2⟩

end

/-- The condition of a filter as a whole. -/
theorem condition (grouped : Grouped property) {filter : Filter}
    (each : ∀ entry ∈ conditions filter, property (entry.2.fragment entry.1)) :
    property (.joined " AND " (topTerms filter)) :=
  grouped.all _ (grouped.terms _ filter each)

end Grouped

end EntityMapper.Filter
