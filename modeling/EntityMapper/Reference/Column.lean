import EntityMapper.Error

set_option autoImplicit false

/-! References to columns and tables, and the keys by which documents name columns. -/

namespace EntityMapper

/-- A column, by itself or of a table named by its label. -/
structure ColumnRef where
  table : Option String
  column : String
deriving DecidableEq, Repr

namespace ColumnRef

instance : Inhabited ColumnRef := ⟨⟨none, ""⟩⟩

/-- A column by itself. -/
def bare (column : String) : ColumnRef := ⟨none, column⟩

/-- A column of a table. -/
def qualified (table column : String) : ColumnRef := ⟨some table, column⟩

/-- The characters that mark the key of a qualified column. -/
def marker : List Char := ['$', 't', '.']

/-- The parts of a text between its points. -/
def segments : List Char → List (List Char)
  | [] => [[]]
  | c :: rest =>
      if c = '.' then [] :: segments rest
      else
        match segments rest with
        | [] => [[c]]
        | segment :: others => (c :: segment) :: others

/-- What follows the marker in a key. -/
def afterMarker? : List Char → Option (List Char)
  | '$' :: 't' :: '.' :: rest => some rest
  | _ => none

/-- The column that a key names: `$t.table.column` one of a table, any other key one by
itself. -/
def ofKey (key : String) : Except QueryFault ColumnRef :=
  match afterMarker? key.toList with
  | none => .ok (bare key)
  | some rest =>
      match segments rest with
      | [table, column] =>
          if table.isEmpty || column.isEmpty then .error (.malformedKey key)
          else .ok (qualified (String.ofList table) (String.ofList column))
      | _ => .error (.malformedKey key)

/-- The key that names a column. -/
def key (column : ColumnRef) : String :=
  match column.table with
  | some table => String.ofList marker ++ table ++ "." ++ column.column
  | none => column.column

end ColumnRef

/-- A table, under an alias or under its own name. -/
structure TableRef where
  table : String
  alias? : Option String
deriving DecidableEq, Repr

namespace TableRef

instance : Inhabited TableRef := ⟨⟨"", none⟩⟩

def named (table : String) : TableRef := ⟨table, none⟩

/-- The name under which the rows of the table are labelled. -/
def label (table : TableRef) : String := table.alias?.getD table.table

end TableRef

end EntityMapper
