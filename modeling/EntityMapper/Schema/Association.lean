set_option autoImplicit false

/-! How entities refer to one another. -/

namespace EntityMapper

/-- How many entities an association leads to. -/
inductive Cardinality where
  | one
  | many
deriving DecidableEq, Repr

/-- How an association is stored. -/
inductive Link where
  /-- A field of the owner holds the key of the target. -/
  | belongsTo (foreignKey : String)
  /-- A field of the one target holds the key of the owner. -/
  | hasOne (foreignKey : String)
  /-- A field of every target holds the key of the owner. -/
  | hasMany (foreignKey : String)
  /-- The rows of a third entity hold the keys of both sides. -/
  | belongsToMany (junction : String)
deriving DecidableEq, Repr

namespace Link

def cardinality : Link → Cardinality
  | .belongsTo _ => .one
  | .hasOne _ => .one
  | .hasMany _ => .many
  | .belongsToMany _ => .many

def word : Link → String
  | .belongsTo _ => "BELONGS_TO"
  | .hasOne _ => "HAS_ONE"
  | .hasMany _ => "HAS_MANY"
  | .belongsToMany _ => "BELONGS_TO_MANY"

end Link

/-- A way from an entity to others. -/
structure Association where
  name : String
  /-- The name of the entity to which it leads. -/
  target : String
  link : Link
deriving DecidableEq, Repr

namespace Association

def cardinality (association : Association) : Cardinality := association.link.cardinality

def text (association : Association) : String :=
  association.link.word ++ " '" ++ association.name ++ "' -> " ++ association.target

end Association

end EntityMapper
