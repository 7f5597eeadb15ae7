set_option autoImplicit false

/-! Types whose members are written as words. -/

namespace EntityMapper

/-- A finite type with a word for each member, never the same for two. -/
class Worded (α : Type) where
  word : α → String
  all : List α
  complete : ∀ member, member ∈ all
  apart : ∀ left ∈ all, ∀ right ∈ all, word left = word right → left = right

namespace Worded

variable {α : Type} [Worded α]

/-- The member that a word stands for. -/
def read? (text : String) : Option α := (all : List α).find? fun member => word member = text

theorem word_of_read? {text : String} {member : α} (found : read? text = some member) :
    word member = text := by
  rw [read?] at found
  have same := List.find?_some found
  exact of_decide_eq_true same

/-- A member is read from its own word and from no other text. -/
theorem read?_eq_some_iff {text : String} {member : α} :
    read? text = some member ↔ word member = text := by
  refine ⟨word_of_read?, ?_⟩
  rintro rfl
  cases found : (read? (word member) : Option α) with
  | none =>
      rw [read?, List.find?_eq_none] at found
      exact absurd (decide_eq_true rfl) (found member (complete member))
  | some other =>
      rw [apart other (complete other) member (complete member) (word_of_read? found)]

end Worded

end EntityMapper
