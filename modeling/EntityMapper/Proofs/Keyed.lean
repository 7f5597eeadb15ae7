import EntityMapper.Keyed
import Mathlib.Data.List.Pairwise

set_option autoImplicit false

/-! Maps are determined by what they hold under each key. -/

namespace EntityMapper

namespace Entries

variable {α : Type}

theorem mem_of_get? {key : String} {value : α} {entries : Entries α}
    (found : get? key entries = some value) : (key, value) ∈ entries := by
  induction entries with
  | nil => cases found
  | cons entry rest ih =>
      rw [get?_cons] at found
      split at found
      · rename_i here
        rw [here, ← Option.some.inj found]
        exact List.mem_cons_self
      · exact List.mem_cons_of_mem _ (ih found)

theorem get?_of_mem {key : String} {value : α} {entries : Entries α} (sorted : Sorted entries)
    (member : (key, value) ∈ entries) : get? key entries = some value := by
  induction entries with
  | nil => exact absurd member List.not_mem_nil
  | cons entry rest ih =>
      have others := List.pairwise_cons.1 sorted
      rw [get?_cons]
      rcases List.mem_cons.1 member with rfl | later
      · exact if_pos rfl
      · have different : key ≠ entry.1 := by
          intro equal
          have less := others.1 _ later
          rw [equal] at less
          exact Std.lt_irrefl less
        rw [if_neg different]
        exact ih others.2 later

theorem get?_eq_none_of_lt {key : String} {entries : Entries α}
    (smaller : ∀ entry ∈ entries, key < entry.1) : get? key entries = none := by
  induction entries with
  | nil => rfl
  | cons entry rest ih =>
      have less := smaller entry List.mem_cons_self
      have different : key ≠ entry.1 := fun equal => Std.lt_irrefl (equal ▸ less)
      rw [get?_cons, if_neg different]
      exact ih fun other member => smaller other (List.mem_cons_of_mem _ member)

/-- What is put under a key a second time changes nothing. -/
theorem insert_insert_self (key : String) (value : α) (entries : Entries α) :
    insert key value (insert key value entries) = insert key value entries := by
  have replaced (rest : Entries α) :
      insert key value ((key, value) :: rest) = (key, value) :: rest := by
    rw [insert_cons, if_neg Std.lt_irrefl, if_pos rfl]
  induction entries with
  | nil => exact replaced []
  | cons first rest ih =>
      rw [insert_cons]
      split
      · exact replaced (first :: rest)
      · rename_i notLess
        split
        · exact replaced rest
        · rename_i different
          rw [insert_cons, if_neg notLess, if_neg different, ih]

/-- Sorted entries are determined by what they hold under each key. -/
theorem ext_of_sorted {left right : Entries α} (sortedLeft : Sorted left)
    (sortedRight : Sorted right) (same : ∀ key, get? key left = get? key right) :
    left = right := by
  induction left generalizing right with
  | nil =>
      cases right with
      | nil => rfl
      | cons entry rest =>
          have found := same entry.1
          rw [get?_nil, get?_cons, if_pos rfl] at found
          cases found
  | cons first rest ih =>
      cases right with
      | nil =>
          have found := same first.1
          rw [get?_nil, get?_cons, if_pos rfl] at found
          cases found
      | cons second others =>
          have leftHead := (List.pairwise_cons.1 sortedLeft).1
          have rightHead := (List.pairwise_cons.1 sortedRight).1
          -- The smaller one of two different first keys is missing on the other side.
          have keys : first.1 = second.1 := by
            rcases Std.lt_trichotomy first.1 second.1 with less | equal | greater
            · have missing : get? first.1 (second :: others) = none := by
                apply get?_eq_none_of_lt
                intro entry member
                rcases List.mem_cons.1 member with rfl | later
                · exact less
                · exact String.lt_trans less (rightHead entry later)
              have found := same first.1
              rw [missing, get?_cons, if_pos rfl] at found
              cases found
            · exact equal
            · have missing : get? second.1 (first :: rest) = none := by
                apply get?_eq_none_of_lt
                intro entry member
                rcases List.mem_cons.1 member with rfl | later
                · exact greater
                · exact String.lt_trans greater (leftHead entry later)
              have found := same second.1
              rw [missing, get?_cons, if_pos rfl] at found
              cases found
          have values := same first.1
          rw [get?_cons, if_pos rfl, get?_cons, if_pos keys] at values
          have heads : first = second := Prod.ext keys (Option.some.inj values)
          have tails : rest = others := by
            apply ih (List.pairwise_cons.1 sortedLeft).2 (List.pairwise_cons.1 sortedRight).2
            intro key
            by_cases here : key = first.1
            · rw [here, get?_eq_none_of_lt leftHead, keys, get?_eq_none_of_lt rightHead]
            · have found := same key
              rwa [get?_cons, if_neg here, get?_cons, if_neg (keys ▸ here)] at found
          rw [heads, tails]

end Entries

namespace Keyed

variable {α : Type}

private theorem get?_foldl_insert {key : String} (entries : List (String × α)) (map : Keyed α)
    (absent : ∀ entry ∈ entries, entry.1 ≠ key) :
    (entries.foldl (fun map entry => map.insert entry.1 entry.2) map).get? key = map.get? key := by
  induction entries generalizing map with
  | nil => rfl
  | cons entry rest ih =>
      have different := absent entry List.mem_cons_self
      rw [List.foldl_cons, ih _ fun other member => absent other (List.mem_cons_of_mem _ member),
        get?_insert_of_ne _ _ (Ne.symm different)]

theorem get?_ofList_of_absent {key : String} {entries : List (String × α)}
    (absent : ∀ entry ∈ entries, entry.1 ≠ key) : (ofList entries).get? key = none :=
  get?_foldl_insert entries empty absent

theorem get?_ofList_of_mem {key : String} {value : α} {entries : List (String × α)}
    (apart : entries.Pairwise fun left right => left.1 ≠ right.1)
    (member : (key, value) ∈ entries) : (ofList entries).get? key = some value := by
  have steps : ∀ map : Keyed α,
      (entries.foldl (fun map entry => map.insert entry.1 entry.2) map).get? key = some value := by
    induction entries with
    | nil => exact absurd member List.not_mem_nil
    | cons entry rest ih =>
        intro map
        have others := List.pairwise_cons.1 apart
        rw [List.foldl_cons]
        rcases List.mem_cons.1 member with rfl | later
        · rw [get?_foldl_insert rest _ fun other there => Ne.symm (others.1 other there),
            get?_insert_self]
        · exact ih others.2 later _
  exact steps empty

/-- If all entries of a key agree, it does not matter which of them counts. -/
theorem get?_ofList_of_unique {key : String} {value : α} {entries : List (String × α)}
    (named : ∃ entry ∈ entries, entry.1 = key)
    (agree : ∀ entry ∈ entries, entry.1 = key → entry.2 = value) :
    (ofList entries).get? key = some value := by
  have steps : ∀ map : Keyed α, map.get? key = some value ∨ (∃ entry ∈ entries, entry.1 = key) →
      (entries.foldl (fun map entry => map.insert entry.1 entry.2) map).get? key = some value := by
    clear named
    induction entries with
    | nil =>
        rintro map (held | ⟨entry, nothing, -⟩)
        · exact held
        · cases nothing
    | cons entry rest ih =>
        obtain ⟨first, others⟩ := List.forall_mem_cons.1 agree
        intro map held
        rw [List.foldl_cons]
        by_cases here : entry.1 = key
        · have put : (map.insert entry.1 entry.2).get? key = some value := by
            rw [here, get?_insert_self, first here]
          exact ih others _ (Or.inl put)
        · simp only [List.mem_cons, exists_eq_or_imp, or_iff_right here] at held
          refine ih others _ (held.imp_left fun old => ?_)
          rw [get?_insert_of_ne _ _ (Ne.symm here), old]
  exact steps empty (Or.inr named)

theorem mem_of_mem_ofList {entry : String × α} {entries : List (String × α)}
    (member : entry ∈ (ofList entries).entries) : entry ∈ entries := by
  have steps : ∀ map : Keyed α,
      entry ∈ (entries.foldl (fun map entry => map.insert entry.1 entry.2) map).entries →
        entry ∈ entries ∨ entry ∈ map.entries := by
    clear member
    induction entries with
    | nil => exact fun map there => Or.inr there
    | cons first rest ih =>
        intro map there
        rcases ih (map.insert first.1 first.2) there with later | held
        · exact Or.inl (List.mem_cons_of_mem _ later)
        · rcases Entries.mem_insert_of_mem held with rfl | old
          · exact Or.inl List.mem_cons_self
          · exact Or.inr old
  rcases steps empty member with listed | nothing
  · exact listed
  · exact absurd nothing List.not_mem_nil

theorem ext_of_get? {left right : Keyed α} (same : ∀ key, left.get? key = right.get? key) :
    left = right := by
  cases left
  cases right
  congr
  apply Entries.ext_of_sorted _ _ same <;> assumption

/-- A map is the map of its entries. -/
theorem ofList_entries (map : Keyed α) : ofList map.entries = map := by
  have apart : map.entries.Pairwise fun left right => left.1 ≠ right.1 := by
    refine map.sorted.imp fun {left right} less equal => ?_
    rw [equal] at less
    exact Std.lt_irrefl less
  apply ext_of_get?
  intro key
  cases found : map.get? key with
  | some value => exact get?_ofList_of_mem apart (Entries.mem_of_get? found)
  | none =>
      apply get?_ofList_of_absent
      intro entry member same
      subst same
      have held := Entries.get?_of_mem map.sorted member
      rw [get?, held] at found
      cases found

end Keyed

end EntityMapper
