import EntityMapper.Proofs.Store.Query

set_option autoImplicit false

/-! Rows in an order that compares their values column by column: what stands between two rows that
an order does not tell apart at its first columns is not told apart from them either. -/

namespace EntityMapper.Store

/-- Values are compared by a strict weak order. -/
structure Sorts (store : Store) : Prop where
  irreflexive : ∀ value, store.before value value = false
  cotransitive : ∀ {first second third}, store.before first third = true →
    store.before first second = true ∨ store.before second third = true

/-- Neither row stands before the other one by its value in a column. -/
def Tied (store : Store) (column : ColumnRef) (left right : Row) : Prop :=
  store.before (left.value column) (right.value column) = false ∧
    store.before (right.value column) (left.value column) = false

/-- Whether an entry of an order puts a row before another one. -/
def ahead (store : Store) (entry : OrderBy) (left right : Row) : Bool :=
  match entry.direction with
  | .ascending => store.before (left.value entry.column) (right.value entry.column)
  | .descending => store.before (right.value entry.column) (left.value entry.column)

variable {store : Store} {entry : OrderBy} {rest : List OrderBy} {first second third : Row}

theorem precedes_cons (store : Store) (entry : OrderBy) (rest : List OrderBy)
    (left right : Row) :
    store.precedes (entry :: rest) left right =
      (store.ahead entry left right ||
        (!store.ahead entry right left && store.precedes rest left right)) := by
  obtain ⟨column, _ | _⟩ := entry <;> rfl

theorem tied_iff : store.Tied entry.column first second ↔
    store.ahead entry first second = false ∧ store.ahead entry second first = false := by
  obtain ⟨column, _ | _⟩ := entry
  · exact Iff.rfl
  · exact and_comm

/-- A row that an order does not put before another one is not put before it by the first entry, nor
by the others where the first one does not tell them apart. -/
theorem precedes_cons_eq_false (keeps : store.precedes (entry :: rest) second first = false) :
    store.ahead entry second first = false ∧
      (store.Tied entry.column first second → store.precedes rest second first = false) := by
  rw [precedes_cons, Bool.or_eq_false_iff] at keeps
  refine ⟨keeps.1, fun tied => ?_⟩
  simpa [(tied_iff.1 tied).1] using keeps.2

namespace Sorts

theorem tied_of_eq (sorts : store.Sorts) {column : ColumnRef} {left right : Row}
    (same : left.value column = right.value column) : store.Tied column left right := by
  rw [Tied, same]
  exact ⟨sorts.irreflexive _, sorts.irreflexive _⟩

theorem ahead_or_ahead (sorts : store.Sorts) (between : Row)
    (leads : store.ahead entry first third = true) :
    store.ahead entry first between = true ∨ store.ahead entry between third = true := by
  obtain ⟨column, _ | _⟩ := entry
  · exact sorts.cotransitive leads
  · exact (sorts.cotransitive leads).symm

/-- What stands between two rows that are tied is tied with both of them. -/
theorem tied_of_between (sorts : store.Sorts) (tied : store.Tied entry.column first third)
    (leads : store.ahead entry second first = false)
    (follows : store.ahead entry third second = false) :
    store.Tied entry.column first second ∧ store.Tied entry.column second third := by
  obtain ⟨forth, back⟩ := tied_iff.1 tied
  have notAfter : store.ahead entry first second = false := by
    rw [← Bool.not_eq_true]
    intro ahead
    rcases sorts.ahead_or_ahead third ahead with wrong | wrong
    · rw [forth] at wrong
      cases wrong
    · rw [follows] at wrong
      cases wrong
  have notBefore : store.ahead entry second third = false := by
    rw [← Bool.not_eq_true]
    intro ahead
    rcases sorts.ahead_or_ahead first ahead with wrong | wrong
    · rw [leads] at wrong
      cases wrong
    · rw [forth] at wrong
      cases wrong
  exact ⟨tied_iff.2 ⟨notAfter, leads⟩, tied_iff.2 ⟨notBefore, follows⟩⟩

/-- Of three rows in an order the first and the last one agree on some columns with which the order
begins. Then the one between them agrees with them. -/
theorem tied_of_sorted (sorts : store.Sorts) {leading : List OrderBy} (entry : OrderBy)
    (leads : store.precedes (leading ++ entry :: rest) second first = false)
    (follows : store.precedes (leading ++ entry :: rest) third second = false)
    (tied : ∀ other ∈ leading, store.Tied other.column first third)
    (last : store.Tied entry.column first third) : store.Tied entry.column first second := by
  induction leading with
  | nil =>
      exact (sorts.tied_of_between last (precedes_cons_eq_false leads).1
        (precedes_cons_eq_false follows).1).1
  | cons other others ih =>
      obtain ⟨leadsHere, leadsOthers⟩ := precedes_cons_eq_false leads
      obtain ⟨followsHere, followsOthers⟩ := precedes_cons_eq_false follows
      obtain ⟨before, after⟩ :=
        sorts.tied_of_between (tied other List.mem_cons_self) leadsHere followsHere
      exact ih (leadsOthers before) (followsOthers after)
        fun each member => tied each (List.mem_cons_of_mem _ member)

end Sorts

end EntityMapper.Store
