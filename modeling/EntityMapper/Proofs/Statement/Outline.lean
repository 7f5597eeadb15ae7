import EntityMapper.Proofs.Statement.Placeholder

set_option autoImplicit false

/-! The outline of a text: its characters outside of names, and its names with their spelling. A
backtick opens a name, a doubled one in it stands for itself, and a single one closes it. -/

namespace EntityMapper

/-- A part of a text. -/
inductive Part where
  | outside (c : Char)
  | name (spelling : String)
deriving DecidableEq

namespace Part

/-- The spelling of a name. -/
def name? : Part → Option String
  | .outside _ => none
  | .name spelling => some spelling

/-- A name loses its spelling. -/
def blank : Part → Part
  | .outside c => .outside c
  | .name _ => .name ""

end Part

namespace Outline

/-- What the characters read so far leave open. -/
inductive Mode where
  | outside
  | inside (read : List Char)
  /-- Behind a delimiter that closes a name, unless another one follows. -/
  | closing (read : List Char)

namespace Mode

/-- Whether no name is open. -/
def isClosed : Mode → Bool
  | .inside _ => false
  | _ => true

/-- The name that is complete if nothing more belongs to it. -/
def pending : Mode → List Part
  | .closing read => [.name (String.ofList read)]
  | _ => []

end Mode

/-- Reads one character: the parts that are complete now, and what is left open. -/
def step : Mode → Char → List Part × Mode
  | .outside, c => if c = Name.delimiter then ([], .inside []) else ([.outside c], .outside)
  | .inside read, c =>
      if c = Name.delimiter then ([], .closing read) else ([], .inside (read ++ [c]))
  | .closing read, c =>
      if c = Name.delimiter then ([], .inside (read ++ [c]))
      else ([.name (String.ofList read), .outside c], .outside)

def run : Mode → List Char → List Part × Mode
  | mode, [] => ([], mode)
  | mode, c :: rest =>
      ((step mode c).1 ++ (run (step mode c).2 rest).1, (run (step mode c).2 rest).2)

/-- The parts of a text, if every name in it is closed. -/
def parts? (text : List Char) : Option (List Part) :=
  if (run .outside text).2.isClosed then
    some ((run .outside text).1 ++ (run .outside text).2.pending)
  else none

@[simp] theorem run_nil (mode : Mode) : run mode [] = ([], mode) := rfl

theorem run_cons (mode : Mode) (c : Char) (rest : List Char) :
    run mode (c :: rest) =
      ((step mode c).1 ++ (run (step mode c).2 rest).1, (run (step mode c).2 rest).2) := rfl

/-- A text is read through any cut. -/
theorem run_append (mode : Mode) (left right : List Char) :
    run mode (left ++ right) =
      ((run mode left).1 ++ (run (run mode left).2 right).1,
        (run (run mode left).2 right).2) := by
  induction left generalizing mode with
  | nil => rfl
  | cons c rest ih => rw [List.cons_append, run_cons, run_cons, ih, List.append_assoc]

/-- Without delimiters every character stands for itself. -/
theorem run_of_free {text : List Char} (free : ∀ c ∈ text, c ≠ Name.delimiter) :
    run .outside text = (text.map .outside, .outside) := by
  induction text with
  | nil => rfl
  | cons c rest ih =>
      have others := ih fun d member => free d (List.mem_cons_of_mem _ member)
      rw [run_cons, step, if_neg (free c List.mem_cons_self), others]
      rfl

/-- The characters of a name are read as the name, whatever they are. -/
theorem run_doubled (read name : List Char) :
    run (.inside read) (Name.doubled name) = ([], .inside (read ++ name)) := by
  induction name generalizing read with
  | nil => rw [Name.doubled_nil, run_nil, List.append_nil]
  | cons c rest ih =>
      rw [Name.doubled_cons]
      split
      · rename_i delimits
        simp [run_cons, step, delimits, ih]
      · rename_i plain
        simp [run_cons, step, plain, ih]

theorem run_quoted (name : List Char) :
    run .outside (Name.delimiter :: Name.doubled name ++ [Name.delimiter]) =
      ([], .closing name) := by
  have opened : step .outside Name.delimiter = ([], .inside []) := by rw [step, if_pos rfl]
  have closed : run (.inside name) [Name.delimiter] = ([], .closing name) := by
    rw [run_cons, step, if_pos rfl]
    rfl
  have inside : run (.inside []) (Name.doubled name) = ([], .inside name) := run_doubled [] name
  rw [List.cons_append, run_cons, opened]
  simp only [run_append, inside, closed, List.nil_append]

/-- A name that may be over is over if no delimiter follows. -/
theorem run_closing {read text : List Char} (apart : text.head? ≠ some Name.delimiter)
    (occupied : text ≠ []) :
    run (.closing read) text =
      (.name (String.ofList read) :: (run .outside text).1, (run .outside text).2) := by
  cases text with
  | nil => exact absurd rfl occupied
  | cons c rest =>
      have other : c ≠ Name.delimiter := fun same => apart (congrArg some same)
      rw [run_cons, run_cons, step, if_neg other, step, if_neg other]
      rfl

theorem getLast?_of_closing {mode : Mode} {text read : List Char} (occupied : text ≠ [])
    (closing : (run mode text).2 = .closing read) : text.getLast? = some Name.delimiter := by
  induction text generalizing mode with
  | nil => exact absurd rfl occupied
  | cons c rest ih =>
      rw [run_cons] at closing
      cases rest with
      | nil =>
          by_cases delimits : c = Name.delimiter
          · rw [delimits]
            rfl
          · cases mode <;> simp [step, delimits] at closing
      | cons d more =>
          rw [List.getLast?_cons_cons]
          exact ih (List.cons_ne_nil _ _) closing

end Outline

open Outline

/-- The parts of a piece that is read alone. -/
def Piece.parts : Piece → List Part
  | .words text => text.toList.map .outside
  | .name spelling => if spelling = Name.wildcard then [.outside '*'] else [.name spelling]
  | .bind _ => [.outside '?']
  | .prepared text _ => text.toList.map .outside

def Piece.name? : Piece → Option String
  | .name spelling => some spelling
  | _ => none

/-- A name without its spelling; the wildcard is no name of something and stays. -/
def Name.blank (name : String) : String := if name = Name.wildcard then Name.wildcard else ""

/-- A piece with another name. -/
def Piece.rename (change : String → String) : Piece → Piece
  | .name spelling => .name (change spelling)
  | .words text => .words text
  | .bind value => .bind value
  | .prepared text params => .prepared text params

@[simp] theorem Name.blank_blank (name : String) : blank (blank name) = blank name := by
  unfold blank
  split
  · rfl
  · rw [if_neg (by decide)]

theorem Piece.parts_blank (piece : Piece) :
    (piece.rename Name.blank).parts = piece.parts.map Part.blank := by
  cases piece with
  | words text =>
      rw [rename, parts, List.map_map]
      rfl
  | name spelling =>
      by_cases wildcard : spelling = Name.wildcard
      · rw [rename, Name.blank, if_pos wildcard, parts, if_pos rfl, parts, if_pos wildcard]
        rfl
      · rw [rename, Name.blank, if_neg wildcard, parts, if_neg (by decide), parts,
          if_neg wildcard]
        rfl
  | bind value => rfl
  | prepared text params =>
      rw [rename, parts, List.map_map]
      rfl

theorem Piece.names_parts (piece : Piece) :
    piece.parts.filterMap Part.name? =
      piece.name?.toList.filter fun name => name ≠ Name.wildcard := by
  have none (text : List Char) : (text.map Part.outside).filterMap Part.name? = [] := by
    rw [List.filterMap_map, List.filterMap_eq_nil_iff]
    exact fun c _ => rfl
  cases piece with
  | words text => exact none _
  | name spelling =>
      by_cases wildcard : spelling = Name.wildcard <;>
        simp [parts, name?, Part.name?, wildcard]
  | bind value => rfl
  | prepared text params => exact none _

/-- Pieces that differ in their name only are the same where they start equal parts. -/
theorem Piece.eq_of_parts {left right : Piece} {other : String} {rest more : List Part}
    (alike : left.rename (fun _ => other) = right.rename (fun _ => other))
    (same : left.parts ++ rest = right.parts ++ more) : left = right := by
  cases left with
  | name spelling =>
      cases right with
      | name new =>
          by_cases wildcard : spelling = Name.wildcard
          · by_cases bare : new = Name.wildcard
            · rw [wildcard, bare]
            · simp [parts, wildcard, bare] at same
          · by_cases bare : new = Name.wildcard
            · simp [parts, wildcard, bare] at same
            · simp only [parts, wildcard, bare, if_false, List.cons_append, List.cons.injEq,
                Part.name.injEq] at same
              rw [same.1]
      | _ => cases alike
  | _ =>
      cases right <;> cases alike
      rfl

namespace Fragment

/-- The parts of the pieces. -/
def parts (fragment : Fragment) : List Part := fragment.pieces.flatMap Piece.parts

/-- The names of the pieces. -/
def names (fragment : Fragment) : List String := fragment.pieces.filterMap Piece.name?

/-- The fragment with other names. -/
def rename (change : String → String) (fragment : Fragment) : Fragment :=
  ⟨fragment.pieces.map (Piece.rename change)⟩

/-- The fragment with names that have lost their spelling. -/
abbrev shape (fragment : Fragment) : Fragment := fragment.rename Name.blank

/-- Every name in a fragment without a fault can be written. -/
theorem fault?_of_mem_names {fragment : Fragment} (sound : fragment.fault? = none) {name : String}
    (member : name ∈ fragment.names) : Name.fault? name = none := by
  obtain ⟨piece, listed, named⟩ := List.mem_filterMap.1 member
  have written := List.findSome?_eq_none_iff.1 sound piece listed
  cases piece with
  | name spelling =>
      obtain rfl := Option.some.inj named
      exact written
  | _ => cases named

theorem fault?_eq_none_iff (fragment : Fragment) :
    fragment.fault? = none ↔ ∀ name ∈ fragment.names, Name.fault? name = none := by
  refine ⟨fun sound name => fault?_of_mem_names sound, fun each => ?_⟩
  rw [fault?, List.findSome?_eq_none_iff]
  intro piece listed
  cases piece with
  | name spelling => exact each spelling (List.mem_filterMap.2 ⟨_, listed, rfl⟩)
  | _ => rfl

theorem parts_append (left right : Fragment) :
    (left ++ right).parts = left.parts ++ right.parts :=
  List.flatMap_append

theorem parts_shape (fragment : Fragment) :
    fragment.shape.parts = fragment.parts.map Part.blank := by
  change (fragment.pieces.map (Piece.rename Name.blank)).flatMap Piece.parts = _
  rw [parts, List.flatMap_map, List.map_flatMap]
  exact congrArg (List.flatMap · fragment.pieces) (funext Piece.parts_blank)

/-- The names among the parts are those of the pieces, the wildcard apart. -/
theorem names_parts (fragment : Fragment) :
    fragment.parts.filterMap Part.name? =
      fragment.names.filter fun name => name ≠ Name.wildcard := by
  obtain ⟨pieces⟩ := fragment
  unfold parts names
  induction pieces with
  | nil => rfl
  | cons piece rest ih =>
      rw [List.flatMap_cons, List.filterMap_append, ih, Piece.names_parts, List.filterMap_cons]
      cases piece.name? with
      | none => rfl
      | some spelling => exact (List.filter_append [spelling] _).symm

@[simp] theorem names_empty : empty.names = [] := rfl

@[simp] theorem names_append (left right : Fragment) :
    (left ++ right).names = left.names ++ right.names :=
  List.filterMap_append

@[simp] theorem names_words (text : String) : (words text).names = [] := rfl

@[simp] theorem names_name (spelling : String) : (Fragment.name spelling).names = [spelling] := rfl

@[simp] theorem names_bind (value : Value) : (bind value).names = [] := rfl

@[simp] theorem names_joined (separator : String) (fragments : List Fragment) :
    (joined separator fragments).names = fragments.flatMap names := by
  induction fragments with
  | nil => rfl
  | cons first rest ih =>
      cases rest with
      | nil => rw [joined_singleton, List.flatMap_singleton]
      | cons second others =>
          rw [joined_cons_cons, names_append, names_append, ih, names_words, List.append_nil]
          exact List.flatMap_cons.symm

@[simp] theorem names_listed (keyword : String) (fragments : List Fragment) :
    (listed keyword fragments).names = fragments.flatMap names := by
  cases fragments with
  | nil => rfl
  | cons first rest =>
      rw [listed, List.isEmpty_cons, if_neg Bool.false_ne_true, names_append, names_words,
        names_joined, List.nil_append]

@[simp] theorem names_bindList (values : List Value) : (bindList values).names = [] := by
  rw [bindList]
  split
  · rfl
  · rw [names_joined, List.flatMap_map, List.flatMap_eq_nil_iff]
    exact fun value _ => names_bind value

section

variable (change : String → String)

@[simp] theorem rename_empty : empty.rename change = empty := rfl

@[simp] theorem rename_append (left right : Fragment) :
    (left ++ right).rename change = left.rename change ++ right.rename change := by
  rw [rename, pieces_append, List.map_append]
  rfl

@[simp] theorem rename_words (text : String) : (words text).rename change = words text := rfl

@[simp] theorem rename_name (spelling : String) :
    (Fragment.name spelling).rename change = Fragment.name (change spelling) := rfl

@[simp] theorem rename_bind (value : Value) : (bind value).rename change = bind value := rfl

@[simp] theorem rename_joined (separator : String) (fragments : List Fragment) :
    (joined separator fragments).rename change =
      joined separator (fragments.map (rename change)) := by
  induction fragments with
  | nil => rfl
  | cons first rest ih =>
      cases rest with
      | nil => rfl
      | cons second others =>
          rw [joined_cons_cons, rename_append, rename_append, ih, rename_words]
          rfl

@[simp] theorem rename_listed (keyword : String) (fragments : List Fragment) :
    (listed keyword fragments).rename change =
      listed keyword (fragments.map (rename change)) := by
  cases fragments with
  | nil => rfl
  | cons first rest =>
      rw [listed, List.isEmpty_cons, if_neg Bool.false_ne_true, rename_append, rename_joined]
      rfl

@[simp] theorem rename_bindList (values : List Value) :
    (bindList values).rename change = bindList values := by
  rw [bindList]
  split
  · rfl
  · rw [rename_joined, List.map_map]
    rfl

end

/-- The values stay where they are when names change. -/
theorem params_rename (change : String → String) (fragment : Fragment) :
    (fragment.rename change).params = fragment.params := by
  rw [params, rename, params, List.flatMap_map]
  refine congrArg (List.flatMap · fragment.pieces) (funext fun piece => ?_)
  cases piece <;> rfl

/-- Fragments that differ in names only are the same where they have the same parts. -/
theorem eq_of_parts {left right : Fragment} {other : String}
    (alike : left.rename (fun _ => other) = right.rename (fun _ => other))
    (same : left.parts = right.parts) : left = right := by
  obtain ⟨pieces⟩ := left
  obtain ⟨others⟩ := right
  replace alike := congrArg Fragment.pieces alike
  refine congrArg Fragment.mk ?_
  unfold parts at same
  simp only [rename] at alike same
  induction pieces generalizing others with
  | nil => exact (List.map_eq_nil_iff.1 alike.symm).symm
  | cons piece rest ih =>
      obtain ⟨first, more, rfl, here, behind⟩ := List.map_eq_cons_iff.1 alike.symm
      rw [List.flatMap_cons, List.flatMap_cons] at same
      have equal : piece = first := Piece.eq_of_parts here.symm same
      subst equal
      rw [ih more (List.append_cancel_left same) behind.symm]

/-- The text of the fragment is read as the parts of its pieces, and closes all names. -/
def Clear (fragment : Fragment) : Prop :=
  (run .outside fragment.chars).2.isClosed = true ∧
    (run .outside fragment.chars).1 ++ (run .outside fragment.chars).2.pending = fragment.parts

theorem Clear.parts? {fragment : Fragment} (clear : fragment.Clear) :
    Outline.parts? fragment.text.toList = some fragment.parts := by
  rw [Outline.parts?, ← chars, if_pos clear.1, clear.2]

/-- Whether the text starts with a delimiter. -/
def opens (fragment : Fragment) : Bool := fragment.chars.head? == some Name.delimiter

/-- Whether the text ends with a delimiter. -/
def closes (fragment : Fragment) : Bool := fragment.chars.getLast? == some Name.delimiter

/-- Two fragments are read one after the other unless two delimiters would meet. -/
theorem Clear.append {left right : Fragment} (first : left.Clear) (second : right.Clear)
    (apart : left.closes = false ∨ right.opens = false) : (left ++ right).Clear := by
  unfold Clear at *
  rw [chars_append, run_append, parts_append, ← first.2, ← second.2]
  cases middle : (run .outside left.chars).2 with
  | inside read =>
      rw [middle] at first
      cases first.1
  | outside => simp [Mode.pending, second.1]
  | closing read =>
      by_cases vacant : right.chars = []
      · simp [vacant, Mode.pending, Mode.isClosed]
      · have occupied : left.chars ≠ [] := by
          intro nothing
          rw [nothing] at middle
          cases middle
        have ended : left.closes = true := by
          rw [closes, getLast?_of_closing occupied middle]
          rfl
        have starts : right.opens = false := apart.resolve_left (by rw [ended]; exact nofun)
        have fresh : right.chars.head? ≠ some Name.delimiter := by simpa [opens] using starts
        rw [run_closing fresh vacant]
        simp [Mode.pending, second.1]

theorem clear_empty : empty.Clear := by
  rw [Clear, chars_empty]
  exact ⟨rfl, rfl⟩

theorem clear_words {text : String} (unmarked : Placeholder.Unmarked text.toList) :
    (words text).Clear := by
  have read := run_of_free fun c member => (unmarked c member).1
  rw [Clear, chars_words, read]
  exact ⟨rfl, by rw [parts, words, List.flatMap_singleton]; exact List.append_nil _⟩

/-- A name is read as itself, whatever characters are in it. -/
theorem clear_name (spelling : String) : (Fragment.name spelling).Clear := by
  rw [Clear, chars_name, Name.chars, parts, Fragment.name, List.flatMap_singleton, Piece.parts]
  split
  · exact ⟨by decide, by decide⟩
  · rw [run_quoted]
    exact ⟨rfl, by rw [Mode.pending, String.ofList_toList]; rfl⟩

theorem clear_bind (value : Value) : (bind value).Clear := by
  rw [Clear, chars_bind]
  exact ⟨by decide, rfl⟩

@[simp] theorem opens_empty : empty.opens = false := by
  rw [opens, chars_empty]
  rfl

theorem opens_words {text : String} (unmarked : Placeholder.Unmarked text.toList) :
    (words text).opens = false := by
  rw [opens, chars_words]
  cases written : text.toList with
  | nil => rfl
  | cons c rest =>
      have other := (unmarked c (written ▸ List.mem_cons_self)).1
      simpa using other

theorem opens_append {left right : Fragment} (first : left.opens = false)
    (second : right.opens = false) : (left ++ right).opens = false := by
  unfold opens at *
  rw [chars_append]
  cases written : left.chars with
  | nil => rw [List.nil_append, second]
  | cons c rest =>
      rw [written] at first
      exact first

/-- Words that keep what stands before them from what stands behind them. -/
def Divides (text : String) : Prop := text ≠ "" ∧ Placeholder.Unmarked text.toList

instance (text : String) : Decidable (Divides text) := instDecidableAnd

/-- What starts with dividing words does so whatever follows. -/
theorem opens_led {text : String} (divides : Divides text) (right : Fragment) :
    (words text ++ right).opens = false := by
  have alone := opens_words divides.2
  unfold opens at *
  rw [chars_append]
  rw [chars_words] at alone ⊢
  cases written : text.toList with
  | nil => exact absurd (String.toList_eq_nil_iff.1 written) divides.1
  | cons c rest =>
      rw [written] at alone
      exact alone

theorem closes_ended {text : String} (divides : Divides text) (left : Fragment) :
    (left ++ words text).closes = false := by
  have occupied : text.toList ≠ [] := fun nothing =>
    divides.1 (String.toList_eq_nil_iff.1 nothing)
  have other := (divides.2 _ (List.getLast_mem occupied)).1
  rw [closes, chars_append, chars_words, List.getLast?_append,
    List.getLast?_eq_some_getLast occupied]
  simpa using other

theorem Clear.ended {left : Fragment} {text : String} (clear : left.Clear)
    (unmarked : Placeholder.Unmarked text.toList) : (left ++ words text).Clear :=
  clear.append (clear_words unmarked) (Or.inr (opens_words unmarked))

theorem Clear.divided {left right : Fragment} {text : String} (first : left.Clear)
    (divides : Divides text) (second : right.Clear) : (left ++ words text ++ right).Clear :=
  (first.ended divides.2).append second (Or.inl (closes_ended divides left))

theorem Clear.led {right : Fragment} {text : String} (divides : Divides text)
    (clear : right.Clear) : (words text ++ right).Clear :=
  clear_empty.divided divides clear

/-- Fragments with dividing words between. -/
theorem clear_joined {separator : String} {fragments : List Fragment} (divides : Divides separator)
    (clear : ∀ fragment ∈ fragments, fragment.Clear) : (joined separator fragments).Clear := by
  induction fragments with
  | nil => exact clear_empty
  | cons first rest ih =>
      have here := clear first List.mem_cons_self
      have others := ih fun fragment member => clear fragment (List.mem_cons_of_mem _ member)
      cases rest with
      | nil => exact here
      | cons second more => exact here.divided divides others

/-- Fragments that keep apart from what stands before them. -/
theorem clear_joined_apart {separator : String} {fragments : List Fragment}
    (unmarked : Placeholder.Unmarked separator.toList)
    (clear : ∀ fragment ∈ fragments, fragment.Clear ∧ fragment.opens = false) :
    (joined separator fragments).Clear ∧ (joined separator fragments).opens = false := by
  induction fragments with
  | nil => exact ⟨clear_empty, opens_empty⟩
  | cons first rest ih =>
      have here := clear first List.mem_cons_self
      have others := ih fun fragment member => clear fragment (List.mem_cons_of_mem _ member)
      cases rest with
      | nil => exact here
      | cons second more =>
          rw [joined_cons_cons]
          exact ⟨(here.1.ended unmarked).append others.1 (Or.inr others.2),
            opens_append (opens_append here.2 (opens_words unmarked)) others.2⟩

theorem clear_listed {keyword : String} {fragments : List Fragment} (divides : Divides keyword)
    (clear : ∀ fragment ∈ fragments, fragment.Clear) : (listed keyword fragments).Clear := by
  rw [listed]
  split
  · exact clear_empty
  · exact (clear_joined (by decide) clear).led divides

theorem opens_listed {keyword : String} (divides : Divides keyword) (fragments : List Fragment) :
    (listed keyword fragments).opens = false := by
  rw [listed]
  split
  · exact opens_empty
  · exact opens_led divides _

theorem clear_column (reference : ColumnRef) : (column reference).Clear := by
  rw [column]
  split
  · exact (clear_name _).divided (by decide) (clear_name _)
  · exact clear_name _

theorem clear_table (reference : TableRef) : (table reference).Clear := by
  rw [table]
  split
  · exact (clear_name _).divided (by decide) (clear_name _)
  · exact clear_name _

theorem clear_bindList (values : List Value) : (bindList values).Clear := by
  rw [bindList]
  split
  · exact clear_words (by decide)
  · refine clear_joined (by decide) fun fragment member => ?_
    obtain ⟨value, -, rfl⟩ := List.mem_map.1 member
    exact clear_bind value

end Fragment

end EntityMapper
