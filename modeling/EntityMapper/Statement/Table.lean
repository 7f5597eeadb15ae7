import EntityMapper.Schema.DataType
import EntityMapper.Statement.Fragment

set_option autoImplicit false

/-! Statements that create, change, drop and rename tables. -/

namespace EntityMapper

/-- What a table says of a column beside its name and type. -/
structure ColumnSpec where
  size : Option Nat
  scale : Option Nat
  nullable : Bool
  primaryKey : Bool
  unique : Bool
  autoIncrement : Bool
  initial : Option Value

namespace ColumnSpec

/-- The size of a type that has one, with defaults where none is given. -/
def sizeText (type : DataType) (spec : ColumnSpec) : String :=
  match type with
  | .decimal =>
      "(" ++ Text.natural (spec.size.getD 10) ++ "," ++ Text.natural (spec.scale.getD 2) ++ ")"
  | .varchar => "(" ++ Text.natural (spec.size.getD 255) ++ ")"
  | _ => ""

/-- The value of a column for which none is given. -/
def initialFragment (spec : ColumnSpec) : Fragment :=
  match spec.initial with
  | some value => .words " DEFAULT " ++ .bind value
  | none => .empty

/-- Type and attributes, after the name of the column. -/
def fragment (type : DataType) (spec : ColumnSpec) : Fragment :=
  .words " " ++ .words type.word ++ .words (spec.sizeText type) ++
    .words (if spec.nullable then " NULL" else " NOT NULL") ++
    .words (if spec.unique && type.admitsUnique then " UNIQUE" else "") ++
    .words (if spec.autoIncrement && type.isInteger then " AUTO_INCREMENT" else "") ++
    spec.initialFragment

/-- Whether the column is declared as the key of its table. -/
def declaresKey (type : DataType) (spec : ColumnSpec) : Bool :=
  spec.primaryKey && (type.isInteger || type = .varchar)

end ColumnSpec

/-- A column as a table declares it. -/
structure TableColumn where
  name : String
  type : DataType
  spec : ColumnSpec

namespace TableColumn

/-- The declaration, with the key of the table behind it where the column is the key. -/
def fragment (column : TableColumn) : Fragment :=
  .name column.name ++ column.spec.fragment column.type ++
    (if column.spec.declaresKey column.type then
      .words ", PRIMARY KEY (" ++ .name column.name ++ .words ")"
    else .empty)

end TableColumn

/-- Where a column is put among the others. -/
inductive Placement where
  | first
  | after (column : String)
deriving DecidableEq, Repr

namespace Placement

def fragment : Option Placement → Fragment
  | none => .empty
  | some .first => .words " FIRST"
  | some (.after column) => .words " AFTER " ++ .name column

end Placement

/-- A change of one column. -/
inductive TableChange where
  | add (column : TableColumn) (placement : Option Placement)
  | modify (column : TableColumn) (placement : Option Placement)
  | drop (column : String)

namespace TableChange

def placed (action : String) (column : TableColumn) (placement : Option Placement) : Fragment :=
  .words action ++ .name column.name ++ column.spec.fragment column.type ++
    Placement.fragment placement

def fragment : TableChange → Fragment
  | .add column placement => placed " ADD COLUMN " column placement
  | .modify column placement => placed " MODIFY COLUMN " column placement
  | .drop column => .words " DROP COLUMN " ++ .name column

end TableChange

namespace Table

/-- A new table, which has to have columns. -/
def create (table : String) (ifNotExists : Bool) (columns : List TableColumn) :
    Except QueryFault Fragment :=
  if columns.isEmpty then .error (.noTableColumns table)
  else
    .ok (.words "CREATE TABLE " ++ .words (if ifNotExists then "IF NOT EXISTS " else "") ++
      .name table ++ .words " (" ++ .joined ", " (columns.map TableColumn.fragment) ++
      .words ");")

/-- Changes of a table, of which there has to be one. -/
def alter (table : String) (changes : List TableChange) : Except QueryFault Fragment :=
  if changes.isEmpty then .error (.noTableChanges table)
  else
    .ok (.words "ALTER TABLE " ++ .name table ++
      .joined "," (changes.map TableChange.fragment) ++ .words ";")

def drop (table : String) (ifExists : Bool) : Fragment :=
  .words "DROP TABLE " ++ .words (if ifExists then "IF EXISTS " else "") ++ .name table ++
    .words ";"

def rename (source target : String) : Fragment :=
  .words "ALTER TABLE " ++ .name source ++ .words " RENAME TO " ++ .name target ++ .words ";"

end Table

end EntityMapper
