import EntityMapper.Statement.Query
import EntityMapper.Statement.Table

set_option autoImplicit false

/-! Text, parameters and faults of fragments that are put together from others. -/

namespace EntityMapper.Fragment

/-- The characters of the text. -/
def chars (fragment : Fragment) : List Char := fragment.text.toList

theorem chars_eq (fragment : Fragment) :
    fragment.chars = fragment.pieces.flatMap fun piece => piece.text.toList := by
  rw [chars, text, String.toList_join, List.flatMap_map]

@[simp] theorem chars_empty : chars empty = [] := by rw [chars_eq, empty, List.flatMap_nil]

@[simp] theorem chars_append (left right : Fragment) :
    (left ++ right).chars = left.chars ++ right.chars := by
  rw [chars_eq, chars_eq, chars_eq, pieces_append, List.flatMap_append]

@[simp] theorem chars_words (text : String) : (words text).chars = text.toList := by
  rw [chars_eq, words, List.flatMap_singleton, Piece.text]

@[simp] theorem chars_name (spelling : String) :
    (Fragment.name spelling).chars = Name.chars spelling := by
  rw [chars_eq, Fragment.name, List.flatMap_singleton, Piece.text, Name.quoted,
    String.toList_ofList]

@[simp] theorem chars_bind (value : Value) : (bind value).chars = ['?'] := by
  rw [chars_eq, bind, List.flatMap_singleton, Piece.text]
  rfl

theorem append_assoc (first second third : Fragment) :
    first ++ second ++ third = first ++ (second ++ third) :=
  congrArg Fragment.mk (List.append_assoc _ _ _)

theorem append_empty (fragment : Fragment) : fragment ++ empty = fragment :=
  congrArg Fragment.mk (List.append_nil _)

@[simp] theorem params_column (reference : ColumnRef) : (column reference).params = [] := by
  rw [column]
  split <;> rfl

@[simp] theorem params_table (reference : TableRef) : (table reference).params = [] := by
  rw [table]
  split <;> rfl

@[simp] theorem joined_singleton (separator : String) (fragment : Fragment) :
    joined separator [fragment] = fragment := rfl

theorem joined_cons_cons (separator : String) (first second : Fragment) (rest : List Fragment) :
    joined separator (first :: second :: rest) =
      first ++ words separator ++ joined separator (second :: rest) := rfl

/-- Words between fragments bind nothing. -/
@[simp] theorem params_joined (separator : String) (fragments : List Fragment) :
    (joined separator fragments).params = fragments.flatMap params := by
  induction fragments with
  | nil => rfl
  | cons first rest ih =>
      cases rest with
      | nil => rw [joined_singleton, List.flatMap_singleton]
      | cons second others =>
          rw [joined_cons_cons, params_append, params_append, ih, params_words, List.append_nil]
          exact List.flatMap_cons.symm

@[simp] theorem params_listed (keyword : String) (fragments : List Fragment) :
    (listed keyword fragments).params = fragments.flatMap params := by
  cases fragments with
  | nil => rfl
  | cons first rest =>
      rw [listed, List.isEmpty_cons, if_neg Bool.false_ne_true, params_append, params_words,
        params_joined, List.nil_append]

@[simp] theorem params_bindList (values : List Value) : (bindList values).params = values := by
  cases values with
  | nil => rfl
  | cons first rest =>
      rw [bindList, List.isEmpty_cons, if_neg Bool.false_ne_true, params_joined, List.flatMap_map]
      exact List.flatMap_singleton' _

theorem checked_eq_ok {fragment result : Fragment} (success : fragment.checked = .ok result) :
    fragment.fault? = none ∧ result = fragment := by
  unfold checked at success
  split at success
  · cases success
  · rename_i sound
    exact ⟨sound, (Except.ok.inj success).symm⟩

theorem checked_of_sound {fragment : Fragment} (sound : fragment.fault? = none) :
    fragment.checked = .ok fragment := by
  simp only [checked, sound]

/-- A finished statement is the text of its fragment with the values bound in it. -/
theorem statement_eq_ok {fragment : Fragment} {statement : Statement}
    (success : fragment.statement = .ok statement) :
    fragment.fault? = none ∧ statement = ⟨fragment.text, fragment.params⟩ := by
  unfold Fragment.statement at success
  cases checking : fragment.checked with
  | error fault =>
      rw [checking] at success
      cases success
  | ok result =>
      obtain ⟨sound, rfl⟩ := checked_eq_ok checking
      rw [checking] at success
      exact ⟨sound, (Except.ok.inj success).symm⟩

theorem statement_of_sound {fragment : Fragment} (sound : fragment.fault? = none) :
    fragment.statement = .ok ⟨fragment.text, fragment.params⟩ := by
  rw [Fragment.statement, checked_of_sound sound]
  rfl

end EntityMapper.Fragment
