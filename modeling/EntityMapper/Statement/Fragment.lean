import EntityMapper.Reference.Column
import EntityMapper.Reference.Name

set_option autoImplicit false

/-! Pieces of statements. Text and parameters are two views of one list of pieces, so that
placeholders and parameters stay in step. -/

namespace EntityMapper

/-- The smallest part of a statement. -/
inductive Piece where
  /-- Words and marks of the language. -/
  | words (text : String)
  /-- A name, written between backticks. -/
  | name (spelling : String)
  /-- A placeholder and the value bound to it. -/
  | bind (value : Value)
  /-- Text that brings its own placeholders, and the values for them. -/
  | prepared (text : String) (params : List Value)

namespace Piece

def text : Piece → String
  | .words text => text
  | .name spelling => Name.quoted spelling
  | .bind _ => "?"
  | .prepared text _ => text

def params : Piece → List Value
  | .bind value => [value]
  | .prepared _ params => params
  | _ => []

/-- Why the piece cannot stand in a statement. -/
def fault? : Piece → Option QueryFault
  | .name spelling => Name.fault? spelling
  | _ => none

end Piece

/-- A part of a statement. -/
structure Fragment where
  pieces : List Piece

namespace Fragment

def empty : Fragment := ⟨[]⟩

instance : Inhabited Fragment := ⟨empty⟩

def append (left right : Fragment) : Fragment := ⟨left.pieces ++ right.pieces⟩

instance : Append Fragment := ⟨append⟩

@[simp] theorem pieces_append (left right : Fragment) :
    (left ++ right).pieces = left.pieces ++ right.pieces := rfl

/-- The text, with a question mark for each bound value. -/
def text (fragment : Fragment) : String := String.join (fragment.pieces.map Piece.text)

/-- The bound values, in the order of their placeholders. -/
def params (fragment : Fragment) : List Value := fragment.pieces.flatMap Piece.params

@[simp] theorem params_empty : params empty = [] := rfl

@[simp] theorem params_append (left right : Fragment) :
    (left ++ right).params = left.params ++ right.params := by
  simp [params, List.flatMap_append]

/-- The first fault from the left. -/
def fault? (fragment : Fragment) : Option QueryFault := fragment.pieces.findSome? Piece.fault?

@[simp] theorem fault?_append (left right : Fragment) :
    (left ++ right).fault? = left.fault?.or right.fault? := by
  simp [fault?, List.findSome?_append]

/-- What is written before the first fault. -/
def sound (fragment : Fragment) : Fragment :=
  ⟨fragment.pieces.takeWhile fun piece => piece.fault?.isNone⟩

/-- The fragment itself, if every name in it can be written. -/
def checked (fragment : Fragment) : Except QueryFault Fragment :=
  match fragment.fault? with
  | some fault => .error fault
  | none => .ok fragment

def words (text : String) : Fragment := ⟨[.words text]⟩

def name (name : String) : Fragment := ⟨[.name name]⟩

def bind (value : Value) : Fragment := ⟨[.bind value]⟩

/-- Text with placeholders of its own. -/
def prepared (text : String) (params : List Value) : Fragment := ⟨[.prepared text params]⟩

@[simp] theorem params_words (text : String) : (words text).params = [] := rfl

@[simp] theorem params_name (name : String) : (Fragment.name name).params = [] := rfl

@[simp] theorem params_bind (value : Value) : (bind value).params = [value] := rfl

/-- A column with the label of its table before it, if it has one. -/
def column (column : ColumnRef) : Fragment :=
  match column.table with
  | some table => name table ++ words "." ++ name column.column
  | none => name column.column

/-- A table and its alias. -/
def table (table : TableRef) : Fragment :=
  match table.alias? with
  | some label => name table.table ++ words " AS " ++ name label
  | none => name table.table

/-- Fragments one after the other, with words between. -/
def joined (separator : String) : List Fragment → Fragment
  | [] => empty
  | [fragment] => fragment
  | fragment :: rest => fragment ++ words separator ++ joined separator rest

/-- Fragments after a leading keyword, with commas between; nothing if there are none. -/
def listed (keyword : String) (fragments : List Fragment) : Fragment :=
  if fragments.isEmpty then empty else words keyword ++ joined ", " fragments

/-- Placeholders for values, with commas between; the word `NULL` if there are none. -/
def bindList (values : List Value) : Fragment :=
  if values.isEmpty then words "NULL" else joined ", " (values.map bind)

end Fragment

/-- Text and parameters, as they are handed out. -/
structure Statement where
  text : String
  params : List Value

namespace Statement

instance : Inhabited Statement := ⟨⟨"", []⟩⟩

end Statement

namespace Fragment

/-- The finished statement, if every name in it can be written. -/
def statement (fragment : Fragment) : Except QueryFault Statement :=
  fragment.checked.map fun sound => ⟨sound.text, sound.params⟩

end Fragment

end EntityMapper
