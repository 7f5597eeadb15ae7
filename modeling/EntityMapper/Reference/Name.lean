import EntityMapper.Error

set_option autoImplicit false

/-! Names of tables and columns in statements: between backticks, a backtick inside written
twice. -/

namespace EntityMapper.Name

/-- The character that opens and closes a name. -/
def delimiter : Char := '\x60'

/-- The characters of a name with each delimiter doubled. -/
def doubled : List Char → List Char
  | [] => []
  | c :: rest => if c = delimiter then c :: c :: doubled rest else c :: doubled rest

@[simp] theorem doubled_nil : doubled [] = [] := rfl

theorem doubled_cons (c : Char) (rest : List Char) :
    doubled (c :: rest) =
      if c = delimiter then c :: c :: doubled rest else c :: doubled rest := rfl

/-- The name that stands for every column, which is written bare. -/
def wildcard : String := "*"

/-- The characters of a name in a statement. -/
def chars (name : String) : List Char :=
  if name = wildcard then ['*'] else delimiter :: doubled name.toList ++ [delimiter]

/-- A name as statements hold it. -/
def quoted (name : String) : String := String.ofList (chars name)

/-- Why a name cannot stand in a statement. -/
def fault? (name : String) : Option QueryFault :=
  if name = wildcard then none
  else if name = "" then some .emptyName
  else if name.toList.contains '\x00' then some .nulInName
  else none

/-- The quoted name, or why there is none. -/
def quote (name : String) : Except QueryFault String :=
  match fault? name with
  | some fault => .error fault
  | none => .ok (quoted name)

end EntityMapper.Name
