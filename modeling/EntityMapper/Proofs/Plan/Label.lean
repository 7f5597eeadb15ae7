import EntityMapper.Plan.Label
import EntityMapper.Proofs.Loop
import Mathlib.Data.Finset.Card
import Mathlib.Data.Finset.Dedup

set_option autoImplicit false

/-! A label that is made up is none of those in use: tables are renamed for as long as their label
is in use, and this ends, as no name is tried twice. -/

namespace EntityMapper

theorem Text.natural_injective {left right : Nat}
    (same : Text.natural left = Text.natural right) : left = right := by
  unfold Text.natural Text.decimal at same
  have digits : Nat.toDigits 10 left = Nat.toDigits 10 right := String.ofList_injective same
  have value := congrArg (Nat.ofDigitChars 10 · 0) digits
  simpa only [Nat.ofDigitChars_ten_toDigits] using value

namespace Label

theorem numbered_injective {table : String} {left right : Nat}
    (same : numbered table left = numbered table right) : left = right := by
  unfold numbered at same
  exact Text.natural_injective (String.append_right_inj _ |>.1 same)

/-- Where the search ends with a label in use, it has met nothing else. -/
theorem used_of_search {used : List String} {table : String} {fuel first : Nat}
    (member : search used table fuel first ∈ used) {offset : Nat} (inside : offset ≤ fuel) :
    numbered table (first + offset) ∈ used := by
  induction fuel generalizing first offset with
  | zero =>
      obtain rfl : offset = 0 := by omega
      exact member
  | succ fuel ih =>
      rw [search] at member
      by_cases taken : used.contains (numbered table first) = true
      · rw [if_pos taken] at member
        cases offset with
        | zero => simpa using taken
        | succ offset =>
            have later := ih member (show offset ≤ fuel by omega)
            rwa [Nat.add_assoc, Nat.add_comm 1 offset] at later
      · rw [if_neg taken] at member
        exact absurd (List.contains_iff_mem.2 member) taken

/-- Different labels that are all in use are no more than those in use. -/
theorem le_card_of_injective {used : List String} {label : Nat → String}
    (apart : Function.Injective label) {n : Nat} (met : ∀ round < n, label round ∈ used) :
    n ≤ used.toFinset.card := by
  have listed : ∀ round ∈ Finset.range n, label round ∈ used.toFinset := by
    intro round early
    exact List.mem_toFinset.2 (met round (Finset.mem_range.1 early))
  have counted := Finset.card_le_card_of_injOn label listed apart.injOn
  rwa [Finset.card_range] at counted

/-- There are more candidates than labels in use. -/
theorem search_not_mem (used : List String) (table : String) (first : Nat) :
    search used table used.length first ∉ used := by
  intro member
  have apart : Function.Injective fun offset => numbered table (first + offset) := by
    intro left right same
    have equal := numbered_injective same
    omega
  have met : ∀ offset < used.length + 1, numbered table (first + offset) ∈ used := by
    intro offset inside
    exact used_of_search member (by omega)
  have candidates := le_card_of_injective apart met
  have labels := used.toFinset_card_le
  omega

theorem fresh_not_mem (used : List String) (table : String) (first : Nat) :
    fresh used table first ∉ used := by
  unfold fresh
  by_cases taken : used.contains table = true
  · rw [if_pos taken]
    exact search_not_mem used table first
  · rw [if_neg taken]
    intro member
    exact taken (List.contains_iff_mem.2 member)

section Renaming

variable {used : List String} {table : String} {first : Nat}

/-- A label that is tried, and the number for the next one. -/
structure Trial where
  label : String
  number : Nat

/-- The label is in use, so that another one is needed. -/
def Trial.Taken (used : List String) (trial : Trial) : Prop := trial.label ∈ used

def Trial.rename (table : String) (trial : Trial) : Trial :=
  ⟨numbered table trial.number, trial.number + 1⟩

theorem numbered_ne (table : String) (n : Nat) : numbered table n ≠ table := by
  intro same
  have lengths := congrArg String.length same
  rw [numbered, String.length_append, String.length_append] at lengths
  have mark : "_".length = 1 := rfl
  omega

theorem iterate_rename (table : String) (first round : Nat) :
    (Trial.rename table)^[round + 1] ⟨table, first⟩ =
      ⟨numbered table (first + round), first + round + 1⟩ := by
  induction round with
  | zero => rfl
  | succ round ih => rw [Function.iterate_succ_apply', ih, Trial.rename, Nat.add_assoc]

/-- No label is tried twice. -/
theorem trials_injective (table : String) (first : Nat) :
    Function.Injective fun round => ((Trial.rename table)^[round] ⟨table, first⟩).label := by
  intro left right same
  dsimp only at same
  cases left with
  | zero =>
      cases right with
      | zero => rfl
      | succ right =>
          rw [iterate_rename] at same
          exact absurd same.symm (numbered_ne table _)
  | succ left =>
      cases right with
      | zero =>
          rw [iterate_rename] at same
          exact absurd same (numbered_ne table _)
      | succ right =>
          rw [iterate_rename, iterate_rename] at same
          have equal := numbered_injective same
          omega

/-- Each round of renaming passes one more label in use. -/
theorem rounds_le {rounds : Nat} {final : Trial}
    (loop : Loop (Trial.Taken used) (Trial.rename table) rounds ⟨table, first⟩ final) :
    rounds ≤ used.toFinset.card :=
  le_card_of_injective (trials_injective table first) fun _ early => loop.goesOn_iterate early

theorem loop_search {fuel : Nat} (free : search used table fuel first ∉ used) :
    ∃ rounds number, Loop (Trial.Taken used) (Trial.rename table) rounds
      ⟨numbered table first, first + 1⟩ ⟨search used table fuel first, number⟩ := by
  induction fuel generalizing first with
  | zero => exact ⟨0, first + 1, .stop free⟩
  | succ fuel ih =>
      rw [search] at free ⊢
      by_cases taken : used.contains (numbered table first) = true
      · rw [if_pos taken] at free ⊢
        obtain ⟨rounds, number, rest⟩ := ih free
        exact ⟨rounds + 1, number, .round (List.contains_iff_mem.1 taken) rest⟩
      · rw [if_neg taken] at free ⊢
        exact ⟨0, first + 1, .stop free⟩

theorem loop_fresh (used : List String) (table : String) (first : Nat) :
    ∃ rounds number, Loop (Trial.Taken used) (Trial.rename table) rounds ⟨table, first⟩
      ⟨fresh used table first, number⟩ := by
  have free := fresh_not_mem used table first
  rw [fresh] at free ⊢
  by_cases taken : used.contains table = true
  · rw [if_pos taken] at free ⊢
    obtain ⟨rounds, number, rest⟩ := loop_search free
    exact ⟨rounds + 1, number, .round (List.contains_iff_mem.1 taken) rest⟩
  · rw [if_neg taken] at free ⊢
    exact ⟨0, first, .stop free⟩

/-- Renaming a table for as long as its label is in use ends after at most as many rounds as there
are labels in use, with a label that is free, and with the name of the table if that is free. -/
theorem renaming_ends (used : List String) (table : String) (first : Nat) :
    (∃ rounds ≤ used.toFinset.card, ∃ number,
      Loop (Trial.Taken used) (Trial.rename table) rounds ⟨table, first⟩
        ⟨fresh used table first, number⟩) ∧
      fresh used table first ∉ used ∧
      (table ∉ used → fresh used table first = table) := by
  refine ⟨?_, fresh_not_mem used table first, fun free => ?_⟩
  · obtain ⟨rounds, number, loop⟩ := loop_fresh used table first
    exact ⟨rounds, rounds_le loop, number, loop⟩
  · rw [fresh, if_neg fun taken => free (List.contains_iff_mem.1 taken)]

theorem renaming_ends_shelves :
    "shelves" ∉ ["authors", "shelves_2"] ∧
      fresh ["authors", "shelves_2"] "shelves" 2 = "shelves" :=
  have free : "shelves" ∉ ["authors", "shelves_2"] := by decide
  ⟨free, (renaming_ends _ _ _).2.2 free⟩

/-- Numbers that tables bear already are passed over. -/
example : fresh ["books", "authors", "books_2"] "books" 2 = "books_3" := by decide

end Renaming

end Label

end EntityMapper
