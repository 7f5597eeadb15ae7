import EntityMapper.Proofs.Statement.Fragment

set_option autoImplicit false

/-! Placeholders in the text of a fragment: outside of names there is one question mark for each
parameter. -/

namespace EntityMapper

namespace Placeholder

/-- The number of question marks outside of names; `inside` says whether a name is open. -/
def count : Bool → List Char → Nat
  | _, [] => 0
  | inside, c :: rest =>
      if c = Name.delimiter then count (!inside) rest
      else if c = '?' ∧ inside = false then count inside rest + 1
      else count inside rest

/-- Whether a name is open at the end of a text. -/
def endsInside : Bool → List Char → Bool
  | inside, [] => inside
  | inside, c :: rest => endsInside (if c = Name.delimiter then !inside else inside) rest

theorem count_append (inside : Bool) (left right : List Char) :
    count inside (left ++ right) = count inside left + count (endsInside inside left) right := by
  induction left generalizing inside with
  | nil => rw [List.nil_append, count, endsInside, Nat.zero_add]
  | cons c rest ih =>
      rw [List.cons_append, count, count, endsInside]
      by_cases delimits : c = Name.delimiter
      · rw [if_pos delimits, if_pos delimits, if_pos delimits, ih]
      · rw [if_neg delimits, if_neg delimits, if_neg delimits, ih]
        split
        · omega
        · rfl

theorem endsInside_append (inside : Bool) (left right : List Char) :
    endsInside inside (left ++ right) = endsInside (endsInside inside left) right := by
  induction left generalizing inside with
  | nil => rfl
  | cons c rest ih => rw [List.cons_append, endsInside, endsInside, ih]

/-- A text neither opens a name nor holds a placeholder. -/
def Unmarked (text : List Char) : Prop := ∀ c ∈ text, c ≠ Name.delimiter ∧ c ≠ '?'

instance (text : List Char) : Decidable (Unmarked text) :=
  List.decidableBAll (fun c => c ≠ Name.delimiter ∧ c ≠ '?') text

theorem unmarked_append (left right : List Char) :
    Unmarked (left ++ right) ↔ Unmarked left ∧ Unmarked right :=
  List.forall_mem_append

theorem Unmarked.count_eq {text : List Char} (unmarked : Unmarked text) (inside : Bool) :
    count inside text = 0 := by
  induction text with
  | nil => rfl
  | cons c rest ih =>
      have here := unmarked c List.mem_cons_self
      rw [count, if_neg here.1, if_neg (fun both => here.2 both.1)]
      exact ih fun d member => unmarked d (List.mem_cons_of_mem _ member)

theorem Unmarked.endsInside_eq {text : List Char} (unmarked : Unmarked text) (inside : Bool) :
    endsInside inside text = inside := by
  induction text with
  | nil => rfl
  | cons c rest ih =>
      rw [endsInside, if_neg (unmarked c List.mem_cons_self).1]
      exact ih fun d member => unmarked d (List.mem_cons_of_mem _ member)

/-- A doubled delimiter closes a name and opens it again. -/
theorem doubled_stays_inside (name : List Char) :
    count true (Name.doubled name) = 0 ∧ endsInside true (Name.doubled name) = true := by
  induction name with
  | nil => exact ⟨rfl, rfl⟩
  | cons c rest ih =>
      rw [Name.doubled_cons]
      by_cases delimits : c = Name.delimiter
      · simp [delimits, count, endsInside, ih]
      · simp [delimits, count, endsInside, ih]

/-- A written name holds no placeholder, whatever question marks are in it. -/
theorem name_chars (name : String) :
    count false (Name.chars name) = 0 ∧ endsInside false (Name.chars name) = false := by
  rw [Name.chars]
  split
  · decide
  · obtain ⟨none, open_⟩ := doubled_stays_inside name.toList
    rw [List.cons_append, count, if_pos rfl, endsInside, if_pos rfl, count_append,
      endsInside_append, Bool.not_false, none, open_]
    decide

end Placeholder

open Placeholder

/-- A piece of which the placeholders can be told from its form. -/
def Piece.Plain : Piece → Prop
  | .words text => Unmarked text.toList
  | .prepared _ _ => False
  | _ => True

theorem Piece.Plain.count_eq {piece : Piece} (plain : piece.Plain) :
    count false piece.text.toList = piece.params.length ∧
      endsInside false piece.text.toList = false := by
  cases piece with
  | words text => exact ⟨Unmarked.count_eq plain false, Unmarked.endsInside_eq plain false⟩
  | name spelling =>
      rw [Piece.text, Name.quoted, String.toList_ofList]
      exact name_chars spelling
  | bind value =>
      rw [Piece.text]
      exact ⟨rfl, by decide⟩
  | prepared text params => exact plain.elim

namespace Fragment

/-- All placeholders of the fragment stand for values of their own. -/
def Plain (fragment : Fragment) : Prop := ∀ piece ∈ fragment.pieces, piece.Plain

@[simp] theorem plain_empty : empty.Plain := fun _ member => absurd member List.not_mem_nil

@[simp] theorem plain_append (left right : Fragment) :
    (left ++ right).Plain ↔ left.Plain ∧ right.Plain :=
  List.forall_mem_append

@[simp] theorem plain_words (text : String) : (words text).Plain ↔ Unmarked text.toList := by
  simp only [Plain, words, List.forall_mem_singleton, Piece.Plain]

@[simp] theorem plain_name (spelling : String) : (Fragment.name spelling).Plain := by
  simp only [Plain, Fragment.name, List.forall_mem_singleton, Piece.Plain]

@[simp] theorem plain_bind (value : Value) : (bind value).Plain := by
  simp only [Plain, bind, List.forall_mem_singleton, Piece.Plain]

theorem plain_joined {separator : String} {fragments : List Fragment}
    (unmarked : Unmarked separator.toList) (plain : ∀ fragment ∈ fragments, fragment.Plain) :
    (joined separator fragments).Plain := by
  induction fragments with
  | nil => exact plain_empty
  | cons first rest ih =>
      have others := ih fun fragment member => plain fragment (List.mem_cons_of_mem _ member)
      have here := plain first List.mem_cons_self
      cases rest with
      | nil => exact here
      | cons second more =>
          rw [joined_cons_cons, plain_append, plain_append, plain_words]
          exact ⟨⟨here, unmarked⟩, others⟩

theorem plain_listed {keyword : String} {fragments : List Fragment}
    (unmarked : Unmarked keyword.toList) (plain : ∀ fragment ∈ fragments, fragment.Plain) :
    (listed keyword fragments).Plain := by
  rw [listed]
  split
  · exact plain_empty
  · rw [plain_append, plain_words]
    exact ⟨unmarked, plain_joined (by decide) plain⟩

@[simp] theorem plain_column (reference : ColumnRef) : (column reference).Plain := by
  rw [column]
  split
  · simp only [plain_append, plain_name, plain_words, true_and, and_true]
    decide
  · exact plain_name _

@[simp] theorem plain_table (reference : TableRef) : (table reference).Plain := by
  rw [table]
  split
  · simp only [plain_append, plain_name, plain_words, true_and, and_true]
    decide
  · exact plain_name _

theorem plain_bindList (values : List Value) : (bindList values).Plain := by
  rw [bindList]
  split
  · rw [plain_words]
    decide
  · refine plain_joined (by decide) fun fragment member => ?_
    obtain ⟨value, -, rfl⟩ := List.mem_map.1 member
    exact plain_bind value

/-- Outside of names there is one question mark for each parameter. -/
theorem Plain.count_eq {fragment : Fragment} (plain : fragment.Plain) :
    count false fragment.chars = fragment.params.length := by
  obtain ⟨pieces⟩ := fragment
  rw [chars_eq, params]
  induction pieces with
  | nil => rfl
  | cons piece rest ih =>
      obtain ⟨here, closed⟩ := (plain piece List.mem_cons_self).count_eq
      have others := ih fun other member => plain other (List.mem_cons_of_mem _ member)
      rw [List.flatMap_cons, List.flatMap_cons, count_append, closed, here, others,
        List.length_append]

end Fragment

end EntityMapper
