import EntityMapper.Text.Word

set_option autoImplicit false

/-! The types of columns. -/

namespace EntityMapper

/-- The type of a column. -/
inductive DataType where
  | varchar
  | text
  | longText
  | tinyInt
  | smallInt
  | mediumInt
  | int
  | bigInt
  | decimal
  | date
  | dateTime
  | boolean
deriving DecidableEq, Repr

namespace DataType

def word : DataType → String
  | .varchar => "VARCHAR"
  | .text => "TEXT"
  | .longText => "LONGTEXT"
  | .tinyInt => "TINYINT"
  | .smallInt => "SMALLINT"
  | .mediumInt => "MEDIUMINT"
  | .int => "INT"
  | .bigInt => "BIGINT"
  | .decimal => "DECIMAL"
  | .date => "DATE"
  | .dateTime => "DATETIME"
  | .boolean => "BOOLEAN"

instance : Worded DataType where
  word := word
  all := [.varchar, .text, .longText, .tinyInt, .smallInt, .mediumInt, .int, .bigInt, .decimal,
    .date, .dateTime, .boolean]
  complete type := by cases type <;> decide
  apart := by decide

/-- The type that a word names. -/
def ofWord? : String → Option DataType := Worded.read?

def isInteger : DataType → Bool
  | .tinyInt | .smallInt | .mediumInt | .int | .bigInt => true
  | _ => false

def isText : DataType → Bool
  | .varchar | .text | .longText => true
  | _ => false

/-- Whether columns of the type can be declared unique. -/
def admitsUnique : DataType → Bool
  | .boolean | .date | .dateTime => false
  | _ => true

end DataType

end EntityMapper
