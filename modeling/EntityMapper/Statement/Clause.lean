import EntityMapper.Statement.Fragment
import EntityMapper.Text.Word

set_option autoImplicit false

/-! The clauses of a query around its condition: what is selected, from which tables, grouped,
ordered and cut into pages. -/

namespace EntityMapper

/-- A function over the values of a selected column. -/
inductive Aggregate where
  | count
  | distinct
  | sum
  | avg
  | min
  | max
deriving DecidableEq, Repr

namespace Aggregate

def word : Aggregate → String
  | .count => "COUNT"
  | .distinct => "DISTINCT"
  | .sum => "SUM"
  | .avg => "AVG"
  | .min => "MIN"
  | .max => "MAX"

instance : Worded Aggregate where
  word := word
  all := [.count, .distinct, .sum, .avg, .min, .max]
  complete aggregate := by cases aggregate <;> decide
  apart := by decide

/-- The function that a word names. -/
def ofWord? : String → Option Aggregate := Worded.read?

end Aggregate

/-- An entry of a select list. -/
structure SelectItem where
  column : String
  alias? : Option String
  table : Option String
  aggregate : Option Aggregate
deriving DecidableEq, Repr

namespace SelectItem

/-- A column under its own name. -/
def plain (column : String) : SelectItem := ⟨column, none, none, none⟩

/-- Every column of a table. -/
def allOf (table : String) : SelectItem := ⟨Name.wildcard, none, some table, none⟩

def fragment (item : SelectItem) : Fragment :=
  let column := Fragment.column ⟨item.table, item.column⟩
  let wrapped :=
    match item.aggregate with
    | some aggregate =>
        Fragment.words aggregate.word ++ .words "(" ++ column ++ .words ")"
    | none => column
  match item.alias? with
  | some label => wrapped ++ .words " AS " ++ .name label
  | none => wrapped

/-- `SELECT` with its list; an empty list selects everything. -/
def clause (items : List SelectItem) : Fragment :=
  if items.isEmpty then .words "SELECT *"
  else .words "SELECT " ++ .joined ", " (items.map fragment)

end SelectItem

/-- Which rows a join keeps that have no partner. -/
inductive JoinKind where
  | inner
  | left
  | right
  | cross
deriving DecidableEq, Repr

namespace JoinKind

def word : JoinKind → String
  | .inner => "INNER"
  | .left => "LEFT"
  | .right => "RIGHT"
  | .cross => "CROSS"

instance : Worded JoinKind where
  word := word
  all := [.inner, .left, .right, .cross]
  complete kind := by cases kind <;> decide
  apart := by decide

/-- The kind that a word names. -/
def ofWord? : String → Option JoinKind := Worded.read?

end JoinKind

/-- A table joined on the equality of two columns. -/
structure Join where
  kind : JoinKind
  table : TableRef
  left : ColumnRef
  right : ColumnRef
deriving DecidableEq, Repr

namespace Join

def fragment (join : Join) : Fragment :=
  .words " " ++ .words join.kind.word ++ .words " JOIN " ++ .table join.table ++
    .words " ON " ++ .column join.left ++ .words " = " ++ .column join.right

/-- The joins in their order, each after a blank. -/
def clause (joins : List Join) : Fragment := .joined "" (joins.map fragment)

end Join

inductive Direction where
  | ascending
  | descending
deriving DecidableEq, Repr

namespace Direction

def word : Direction → String
  | .ascending => "ASC"
  | .descending => "DESC"

end Direction

/-- A column to sort by. -/
structure OrderBy where
  column : ColumnRef
  direction : Direction
deriving DecidableEq, Repr

namespace OrderBy

def fragment (entry : OrderBy) : Fragment :=
  .column entry.column ++ .words " " ++ .words entry.direction.word

/-- `ORDER BY` with its list, nothing for an empty list. -/
def clause (entries : List OrderBy) : Fragment :=
  .listed " ORDER BY " (entries.map fragment)

end OrderBy

/-- `GROUP BY` with its list, nothing for an empty list. -/
def groupByClause (columns : List ColumnRef) : Fragment :=
  .listed " GROUP BY " (columns.map Fragment.column)

/-- A page of rows; pages count from one. -/
structure Page where
  number : UInt64
  size : UInt64
deriving DecidableEq, Repr

namespace Page

/-- The page for queries that name none. -/
def initial : Page := ⟨1, 1000⟩

instance : Inhabited Page := ⟨initial⟩

/-- A page of one row. -/
def single : Page := ⟨1, 1⟩

/-- The number of rows before the page, at most the greatest number of 64 bits. -/
def offset (page : Page) : Nat :=
  min (page.size.toNat * (max page.number.toNat 1 - 1)) 18446744073709551615

/-- `LIMIT` and `OFFSET` as parameters. -/
def clause (page : Page) : Fragment :=
  .words " LIMIT " ++ .bind (.ofCount page.size.toNat) ++ .words " OFFSET " ++
    .bind (.ofCount page.offset)

end Page

end EntityMapper
