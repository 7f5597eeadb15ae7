import EntityMapper.Entity.Basic
import EntityMapper.Url.Basic
import EntityMapper.Validation.Email

set_option autoImplicit false

/-! Checks of values before they are written: the type first, then presence, then the rules in
their order. The first failure counts. -/

namespace EntityMapper

/-- The write for which a value is checked. -/
inductive WriteMode where
  /-- The key may be missing, as the database can make it. -/
  | insert
  | update
deriving DecidableEq, Repr

namespace Rule

/-- A rule on texts, which no other value keeps. -/
def checkText (passes : String → Bool) : Value → Option Reason
  | .text text => if passes text then none else some .invalidValue
  | _ => some .invalidValue

/-- Why a value that is not null breaks the rule. -/
def check : Rule → Value → Option Reason
  | .minLength least, .text text => if text.length < least then some .minLength else none
  | .minLength _, _ => none
  | .maxLength greatest, .text text =>
      if greatest < text.length then some .maxLength else none
  | .maxLength _, _ => none
  | .min least, value =>
      value.float?.bind fun number => if number < least then some .minValue else none
  | .max greatest, value =>
      value.float?.bind fun number => if number > greatest then some .maxValue else none
  | .email, value => checkText Email.isEmail value
  | .url, value => checkText Url.isUrl value
  | .pattern form, value => checkText form.occursIn value
  | .oneOf values, value =>
      if values.any fun allowed => allowed.same value then none else some .invalidValue

end Rule

namespace DataType

/-- Whether a value that is not null can be stored in columns of the type. -/
def admits (type : DataType) (value : Value) : Bool :=
  match type with
  | .varchar | .text | .longText => value.text?.isSome
  | .tinyInt | .smallInt | .mediumInt | .int | .bigInt =>
      match value with
      | .int _ => true
      | _ => false
  | .decimal => value.float?.isSome
  | .date | .dateTime =>
      match value with
      | .date _ => true
      | .dateTime _ => true
      | .text spelling => (DateTime.read? spelling).isSome
      | _ => false
  | .boolean =>
      match value with
      | .bool _ => true
      | .int number => number = 0 || number = 1
      | _ => false

end DataType

namespace Column

/-- Whether the column has to have a value in a write. -/
def isRequired (column : Column) (mode : WriteMode) : Bool :=
  if column.primaryKey then mode = .update else column.required

/-- Why a value cannot be written to the column; a missing value counts as null. -/
def check (column : Column) (value : Option Value) (mode : WriteMode) : Option Reason :=
  match value.filter fun given => !given.isNull with
  | none => if column.isRequired mode then some .required else none
  | some given =>
      if column.type.admits given then column.rules.findSome? fun rule => rule.check given
      else some .invalidType

end Column

namespace Entity

/-- The fields that cannot be written, each with its reason. -/
def faults (entity : Entity) (mode : WriteMode) : FieldErrors :=
  .ofList (entity.schema.columns.filterMap fun column =>
    (column.check (entity.get? column.field) mode).map fun reason => (column.field, reason))

end Entity

end EntityMapper
