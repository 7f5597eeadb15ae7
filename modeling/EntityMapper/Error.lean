import EntityMapper.Entity.Lifecycle
import EntityMapper.Validation.Reason
import EntityMapper.Value.Extraction

set_option autoImplicit false

/-! Why operations fail: causes by layer, and the wording of each. -/

namespace EntityMapper

/-- What is wrong with the description of a query. -/
inductive QueryFault where
  | emptyName
  | nulInName
  | malformedKey (key : String)
  | filterNotObject
  | noOperator (key : String)
  | boundsNotObject (operator key : String)
  | listNotArray (operator key : String)
  | conjunctionShape
  | disjunctionShape
  | noInsertColumns (table : String)
  | noUpdateColumns (table : String)
  | noTableColumns (table : String)
  | noTableChanges (table : String)
  | unfilteredDelete (table : String)
  | unknownField (entity field : String)
  | notInsertable (state : Lifecycle) (entity : String)
  | removed (entity : String)
  | other (message : String)
deriving DecidableEq, Repr

namespace QueryFault

def message : QueryFault → String
  | .emptyName => "Identifier cannot be empty"
  | .nulInName => "Identifier cannot contain NUL character"
  | .malformedKey key => "Expected '$t.<table>.<column>', got '" ++ key ++ "'"
  | .filterNotObject => "Filter must be a JSON object"
  | .noOperator key =>
      "Filter value for '" ++ key ++ "' is an object without a recognized operator"
  | .boundsNotObject operator key =>
      "'" ++ operator ++ "' on '" ++ key ++ "' expects an object with '$from' and '$to'"
  | .listNotArray operator key => "'" ++ operator ++ "' on '" ++ key ++ "' expects an array"
  | .conjunctionShape => "'$and' expects an object or an array of objects"
  | .disjunctionShape => "'$or' expects an array of objects"
  | .noInsertColumns table => "INSERT into '" ++ table ++ "' has no columns"
  | .noUpdateColumns table => "UPDATE of '" ++ table ++ "' has no columns to set"
  | .noTableColumns table => "No columns defined for table '" ++ table ++ "'"
  | .noTableChanges table => "No changes defined for table '" ++ table ++ "'"
  | .unfilteredDelete table => "DELETE from '" ++ table ++ "' without a filter is not allowed"
  | .unknownField entity field => "'" ++ entity ++ "' has no field '" ++ field ++ "'"
  | .notInsertable state entity => "Cannot insert a " ++ state.text ++ " '" ++ entity ++ "'"
  | .removed entity => "'" ++ entity ++ "' has been removed"
  | .other message => message

end QueryFault

/-- What is wrong with the description of the entities. -/
inductive DefinitionFault where
  | duplicateField (field entity : String)
  | duplicateColumn (column entity : String)
  | noPrimaryKey (entity : String)
  | severalPrimaryKeys (entity : String)
  | associationName (association entity : String)
  | duplicateEntity (entity : String)
  | unknownEntity (entity : String)
  | unknownTarget (association owner target : String)
  | unknownJunction (association owner junction : String)
  | unknownForeignKey (field association holder : String)
  | noJunctionKey (junction entity : String)
  | severalJunctionKeys (junction entity : String)
  | noAssociation (owner target : String)
  | other (message : String)
deriving DecidableEq, Repr

namespace DefinitionFault

def message : DefinitionFault → String
  | .duplicateField field entity =>
      "Duplicated field name '" ++ field ++ "' in entity '" ++ entity ++ "'"
  | .duplicateColumn column entity =>
      "Duplicated column name '" ++ column ++ "' in entity '" ++ entity ++ "'"
  | .noPrimaryKey entity => "Entity '" ++ entity ++ "' has no primary key"
  | .severalPrimaryKeys entity =>
      "Entity '" ++ entity ++ "' declares more than one primary key"
  | .associationName association entity =>
      "Association name '" ++ association ++ "' in entity '" ++ entity ++
        "' collides with another field or association"
  | .duplicateEntity entity => "Entity '" ++ entity ++ "' is registered twice"
  | .unknownEntity entity => "Entity '" ++ entity ++ "' is not registered"
  | .unknownTarget association owner target =>
      "Association '" ++ association ++ "' of '" ++ owner ++
        "' targets unregistered entity '" ++ target ++ "'"
  | .unknownJunction association owner junction =>
      "Association '" ++ association ++ "' of '" ++ owner ++
        "' goes through unregistered entity '" ++ junction ++ "'"
  | .unknownForeignKey field association holder =>
      "Foreign key '" ++ field ++ "' of association '" ++ association ++
        "' is not a field of '" ++ holder ++ "'"
  | .noJunctionKey junction entity =>
      "Junction '" ++ junction ++ "' has no BELONGS_TO association to '" ++ entity ++ "'"
  | .severalJunctionKeys junction entity =>
      "Junction '" ++ junction ++ "' has more than one BELONGS_TO association to '" ++
        entity ++ "'"
  | .noAssociation owner target =>
      "Entity '" ++ owner ++ "' has no association to '" ++ target ++ "'"
  | .other message => message

end DefinitionFault

/-- Why a field cannot be read at a type. -/
inductive DecodeFault where
  | extraction (fault : ExtractionFault)
  | unknownField (entity field : String)
  | noTotal
  | other (message : String)

namespace DecodeFault

def message : DecodeFault → String
  | .extraction fault => fault.message
  | .unknownField entity field => "'" ++ entity ++ "' has no field '" ++ field ++ "'"
  | .noTotal => "count result has no total column"
  | .other message => message

end DecodeFault

/-- Why a statement has no result. -/
inductive ExecutionFault where
  | aborted (reason : String)
  | keyTooLarge (key : UInt64)
  | reported (message : String)
deriving DecidableEq

namespace ExecutionFault

def message : ExecutionFault → String
  | .aborted reason => "Statement aborted by hook: " ++ reason
  | .keyTooLarge key =>
      "Generated key " ++ Text.natural key.toNat ++ " does not fit a signed integer"
  | .reported message => message

end ExecutionFault

/-- Why an operation failed. -/
inductive Error where
  | execution (fault : ExecutionFault) (statement : Option String)
  | definition (fault : DefinitionFault)
  | validation (errors : FieldErrors)
  | notFound (entity primaryKey : String) (filter : Json)
  | query (fault : QueryFault)
  | decode (field : String) (fault : DecodeFault)

namespace Error

def message : Error → String
  | .execution fault none => "Query error: " ++ fault.message
  | .execution fault (some statement) =>
      "Query error: " ++ fault.message ++ " (sql: " ++ statement ++ ")"
  | .definition fault => "Definition error: " ++ fault.message
  | .validation errors => "Validation error: " ++ errors.text
  | .notFound entity primaryKey filter =>
      "Not found: no '" ++ entity ++ "' row matched (primary key '" ++ primaryKey ++
        "', filter " ++ filter.render ++ ")"
  | .query fault => "Invalid query: " ++ fault.message
  | .decode field fault => "Decode error on field '" ++ field ++ "': " ++ fault.message

/-- Adds the failed statement to an execution error that has none yet. -/
def withStatement (statement : String) : Error → Error
  | .execution fault none => .execution fault (some statement)
  | other => other

def statement? : Error → Option String
  | .execution _ statement => statement
  | _ => none

def fieldErrors? : Error → Option FieldErrors
  | .validation errors => some errors
  | _ => none

def isNotFound : Error → Bool
  | .notFound .. => true
  | _ => false

def isValidation : Error → Bool
  | .validation _ => true
  | _ => false

def isDefinition : Error → Bool
  | .definition _ => true
  | _ => false

end Error

/-- A result, or why there is none. -/
abbrev Result (α : Type) := Except Error α

instance : MonadLift (Except QueryFault) (Except Error) := ⟨fun result => result.mapError .query⟩

instance : MonadLift (Except DefinitionFault) (Except Error) :=
  ⟨fun result => result.mapError .definition⟩

end EntityMapper
