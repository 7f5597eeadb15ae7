import EntityMapper.Error
import EntityMapper.Text.Blank
import EntityMapper.Text.Bytes

set_option autoImplicit false

/-! What hooks see of a statement: its kind and origin before it runs, and what came of it. -/

namespace EntityMapper

/-- What a statement does, told by its first word. -/
inductive StatementKind where
  | select
  | insert
  | update
  | delete
  | other
deriving DecidableEq, Repr

namespace StatementKind

def text : StatementKind → String
  | .select => "Select"
  | .insert => "Insert"
  | .update => "Update"
  | .delete => "Delete"
  | .other => "Other"

/-- The first word of a statement, in capitals. -/
def keyword (statement : String) : String :=
  String.ofList (((Text.trimStart statement.toList).takeWhile Char.isAlpha).map Char.toUpper)

def ofText (statement : String) : StatementKind :=
  match keyword statement with
  | "SELECT" => .select
  | "INSERT" => .insert
  | "UPDATE" => .update
  | "DELETE" => .delete
  | _ => .other

end StatementKind

/-- A statement that is about to run. -/
structure Context where
  text : String
  paramCount : Nat
  kind : StatementKind
  /-- The operation that sends the statement. -/
  tag : Option String
  /-- The type of entities that the statement is about. -/
  entity : Option String
deriving DecidableEq, Repr

namespace Context

def ofStatement (text : String) (paramCount : Nat) (tag entity : Option String) : Context :=
  ⟨text, paramCount, .ofText text, tag, entity⟩

end Context

/-- What came of a statement. -/
inductive Outcome where
  | rows (count : Nat)
  | affected (count : UInt64)
  | failed (message : String)
deriving DecidableEq, Repr

namespace Outcome

/-- A failure, of which hooks see the first 512 bytes. -/
def failure (message : String) : Outcome := .failed (Text.abridge 512 message)

def isFailure : Outcome → Bool
  | .failed _ => true
  | _ => false

def text : Outcome → String
  | .rows count => Text.natural count ++ " rows"
  | .affected count => Text.natural count.toNat ++ " affected"
  | .failed message => "error: " ++ message

end Outcome

end EntityMapper
