set_option autoImplicit false

/-! Association lists in the order of their keys, each key once. -/

namespace EntityMapper

/-- Entries in any order, as they are inserted into one another. -/
abbrev Entries (α : Type) := List (String × α)

namespace Entries

variable {α : Type}

/-- Each key stands before the greater ones. -/
def Sorted (entries : Entries α) : Prop := entries.Pairwise fun left right => left.1 < right.1

/-- Puts a value under a key, at the place of the key and instead of the value that it had. -/
def insert (key : String) (value : α) : Entries α → Entries α
  | [] => [(key, value)]
  | entry :: rest =>
      if key < entry.1 then (key, value) :: entry :: rest
      else if key = entry.1 then (key, value) :: rest
      else entry :: insert key value rest

def get? (key : String) (entries : Entries α) : Option α := entries.lookup key

@[simp] theorem insert_nil (key : String) (value : α) :
    insert key value [] = [(key, value)] := rfl

theorem insert_cons (key : String) (value : α) (entry : String × α) (rest : Entries α) :
    insert key value (entry :: rest) =
      if key < entry.1 then (key, value) :: entry :: rest
      else if key = entry.1 then (key, value) :: rest
      else entry :: insert key value rest := rfl

@[simp] theorem get?_nil (key : String) : get? key ([] : Entries α) = none := rfl

theorem get?_cons (key : String) (entry : String × α) (rest : Entries α) :
    get? key (entry :: rest) = if key = entry.1 then some entry.2 else get? key rest := by
  have step : get? key (entry :: rest) =
      match key == entry.1 with
      | true => some entry.2
      | false => get? key rest := rfl
  by_cases equal : key = entry.1
  · rw [step, if_pos equal, beq_iff_eq.2 equal]
  · rw [step, if_neg equal, beq_false_of_ne equal]

theorem mem_insert_of_mem {key : String} {value : α} {entries : Entries α} {entry : String × α}
    (member : entry ∈ insert key value entries) : entry = (key, value) ∨ entry ∈ entries := by
  induction entries with
  | nil => exact Or.inl (List.mem_singleton.1 member)
  | cons first rest ih =>
      rw [insert_cons] at member
      split at member
      · exact (List.mem_cons.1 member).imp_right id
      · split at member
        · exact (List.mem_cons.1 member).imp_right (List.mem_cons_of_mem _)
        · rcases List.mem_cons.1 member with here | there
          · exact Or.inr (here ▸ List.mem_cons_self)
          · exact (ih there).imp_right (List.mem_cons_of_mem _)

private theorem lt_of_not_lt_of_ne {left right : String} (notLess : ¬ left < right)
    (different : left ≠ right) : right < left := by
  rcases Std.lt_trichotomy left right with less | equal | greater
  · exact absurd less notLess
  · exact absurd equal different
  · exact greater

theorem sorted_insert (key : String) (value : α) {entries : Entries α}
    (sorted : Sorted entries) : Sorted (insert key value entries) := by
  induction entries with
  | nil => exact List.pairwise_singleton _ _
  | cons first rest ih =>
      rw [insert_cons]
      split
      · rename_i less
        refine List.pairwise_cons.2 ⟨fun entry member => ?_, sorted⟩
        rcases List.mem_cons.1 member with here | there
        · exact here ▸ less
        · exact String.lt_trans less ((List.pairwise_cons.1 sorted).1 entry there)
      · split
        · rename_i equal
          exact List.pairwise_cons.2
            ⟨fun entry member => equal ▸ (List.pairwise_cons.1 sorted).1 entry member,
              (List.pairwise_cons.1 sorted).2⟩
        · rename_i notLess different
          refine List.pairwise_cons.2 ⟨fun entry member => ?_, ih (List.pairwise_cons.1 sorted).2⟩
          rcases mem_insert_of_mem member with new | old
          · exact new ▸ lt_of_not_lt_of_ne notLess different
          · exact (List.pairwise_cons.1 sorted).1 entry old

theorem get?_insert_self (key : String) (value : α) (entries : Entries α) :
    get? key (insert key value entries) = some value := by
  induction entries with
  | nil => simp [get?_cons]
  | cons first rest ih =>
      rw [insert_cons]
      split
      · simp [get?_cons]
      · split
        · simp [get?_cons]
        · rename_i different
          rw [get?_cons, if_neg different, ih]

theorem get?_insert_of_ne {key other : String} (value : α) (entries : Entries α)
    (different : other ≠ key) : get? other (insert key value entries) = get? other entries := by
  induction entries with
  | nil => simp [get?_cons, different]
  | cons first rest ih =>
      rw [insert_cons]
      split
      · rw [get?_cons, if_neg different]
      · split
        · rename_i equal
          rw [get?_cons, get?_cons, if_neg different, if_neg (equal ▸ different)]
        · rw [get?_cons, get?_cons, ih]

end Entries

/-- A finite map from texts, as its entries in the order of their keys. -/
structure Keyed (α : Type) where
  entries : Entries α
  sorted : Entries.Sorted entries

namespace Keyed

variable {α : Type}

def empty : Keyed α := ⟨[], List.Pairwise.nil⟩

instance : Inhabited (Keyed α) := ⟨empty⟩

def get? (key : String) (map : Keyed α) : Option α := Entries.get? key map.entries

def contains (key : String) (map : Keyed α) : Bool := (map.get? key).isSome

/-- Puts a value under a key, instead of the value that it had. -/
def insert (key : String) (value : α) (map : Keyed α) : Keyed α :=
  ⟨Entries.insert key value map.entries, Entries.sorted_insert key value map.sorted⟩

/-- Puts a value under a key that has none. -/
def insertNew (key : String) (value : α) (map : Keyed α) : Keyed α :=
  if map.contains key then map else map.insert key value

/-- The map of a list of entries; of several for one key the last one counts. -/
def ofList (entries : List (String × α)) : Keyed α :=
  entries.foldl (fun map entry => map.insert entry.1 entry.2) empty

def isEmpty (map : Keyed α) : Bool := map.entries.isEmpty

def size (map : Keyed α) : Nat := map.entries.length

theorem get?_insert_self (key : String) (value : α) (map : Keyed α) :
    get? key (insert key value map) = some value :=
  Entries.get?_insert_self key value map.entries

theorem get?_insert_of_ne {key other : String} (value : α) (map : Keyed α)
    (different : other ≠ key) : get? other (insert key value map) = get? other map :=
  Entries.get?_insert_of_ne value map.entries different

end Keyed

end EntityMapper
