import EntityMapper.Filter.Basic
import EntityMapper.Value.Document

set_option autoImplicit false

/-! Filters as documents: members name columns, their values the conditions; `$and` and `$or`
hold nested filters. -/

namespace EntityMapper

namespace Condition

/-- The keys of operators, in the order in which they are looked for. -/
def operatorKeys : List String :=
  ["$eq", "$neq", "$gt", "$gte", "$lt", "$lte", "$is", "$not", "$between", "$nbetween", "$in",
    "$nin", "$like", "$nlike"]

/-- The least and greatest value of a range; a missing one is null. -/
def bounds (operator key : String) : Json → Except QueryFault (Value × Value)
  | .object members =>
      .ok (.ofJson ((members.lookup "$from").getD .null),
        .ofJson ((members.lookup "$to").getD .null))
  | _ => .error (.boundsNotObject operator key)

def items (operator key : String) : Json → Except QueryFault (List Value)
  | .array items => .ok (Value.ofItems items)
  | _ => .error (.listNotArray operator key)

/-- The condition of an operator and its argument. -/
def ofOperator (key operator : String) (argument : Json) : Except QueryFault Condition :=
  match operator with
  | "$eq" => .ok (.eq (.ofJson argument))
  | "$neq" => .ok (.ne (.ofJson argument))
  | "$gt" => .ok (.gt (.ofJson argument))
  | "$gte" => .ok (.gte (.ofJson argument))
  | "$lt" => .ok (.lt (.ofJson argument))
  | "$lte" => .ok (.lte (.ofJson argument))
  | "$is" => .ok (.is (.ofJson argument))
  | "$not" => .ok (.isNot (.ofJson argument))
  | "$between" => (bounds operator key argument).map fun range => .between range.1 range.2
  | "$nbetween" => (bounds operator key argument).map fun range => .notBetween range.1 range.2
  | "$in" => (items operator key argument).map .inList
  | "$nin" => (items operator key argument).map .notInList
  | "$like" => .ok (.like (.ofJson argument))
  | _ => .ok (.notLike (.ofJson argument))

/-- The first operator of an object, in the order of `operatorKeys`. -/
def findOperator? (members : List (String × Json)) : Option (String × Json) :=
  operatorKeys.findSome? fun operator =>
    (members.lookup operator).map fun argument => (operator, argument)

/-- The condition that the value of a member stands for. -/
def ofJson (key : String) : Json → Except QueryFault Condition
  | .null => .ok .isNull
  | .object members =>
      match findOperator? members with
      | some (operator, argument) => ofOperator key operator argument
      | none => .error (.noOperator key)
  | value => .ok (.eq (.ofJson value))

def operatorObject (operator : String) (argument : Json) : Json := .object [(operator, argument)]

def boundsObject (least greatest : Value) : Json :=
  .object [("$from", least.toJson), ("$to", greatest.toJson)]

/-- The document of a condition. -/
def toJson : Condition → Json
  | .isNull => .null
  | .eq value => value.toJson
  | .ne value => operatorObject "$neq" value.toJson
  | .gt value => operatorObject "$gt" value.toJson
  | .gte value => operatorObject "$gte" value.toJson
  | .lt value => operatorObject "$lt" value.toJson
  | .lte value => operatorObject "$lte" value.toJson
  | .is value => operatorObject "$is" value.toJson
  | .isNot value => operatorObject "$not" value.toJson
  | .between least greatest => operatorObject "$between" (boundsObject least greatest)
  | .notBetween least greatest => operatorObject "$nbetween" (boundsObject least greatest)
  | .inList values => operatorObject "$in" (.array (Value.itemsToJson values))
  | .notInList values => operatorObject "$nin" (.array (Value.itemsToJson values))
  | .like pattern => operatorObject "$like" pattern.toJson
  | .notLike pattern => operatorObject "$nlike" pattern.toJson

end Condition

namespace Filter

def conjunctionKey : String := "$and"

def disjunctionKey : String := "$or"

mutual

/-- The filter of a document. -/
def ofJson : Json → Except QueryFault Filter
  | .object members => ofMembers members
  | _ => .error .filterNotObject

/-- The filter of the members of an object, in their order. -/
def ofMembers : List (String × Json) → Except QueryFault Filter
  | [] => .ok []
  | (key, value) :: rest => do
      let criterion ← ofMember key value
      return criterion :: (← ofMembers rest)

/-- The criterion of one member. -/
def ofMember (key : String) (value : Json) : Except QueryFault Criterion :=
  if key = conjunctionKey then
    match value with
    | .array items => (ofItems items).map .conjunction
    | .object members => (ofMembers members).map fun filter => .conjunction [filter]
    | .null => .ok (.conjunction [])
    | _ => .error .conjunctionShape
  else if key = disjunctionKey then
    match value with
    | .array items => (ofItems items).map .disjunction
    | _ => .error .disjunctionShape
  else do
    let column ← ColumnRef.ofKey key
    return .column column (← Condition.ofJson key value)

def ofItems : List Json → Except QueryFault (List Filter)
  | [] => .ok []
  | item :: rest => do
      let filter ← ofJson item
      return filter :: (← ofItems rest)

end

/-- Members by key: the first of each key, and the later ones as objects of their own. -/
structure Folded where
  members : List (String × Json)
  repeated : List Json

def Folded.push (folded : Folded) (member : String × Json) : Folded :=
  if (folded.members.lookup member.1).isSome then
    { folded with repeated := folded.repeated ++ [.object [member]] }
  else { folded with members := folded.members ++ [member] }

/-- The object of all members; repeated keys go into its conjunction. -/
def Folded.toJson (folded : Folded) : Json :=
  if folded.repeated.isEmpty then .object folded.members
  else
    match folded.members.lookup conjunctionKey with
    | some (.array items) =>
        .object (Json.putMember conjunctionKey (.array (items ++ folded.repeated)) folded.members)
    | _ => .object (Json.putMember conjunctionKey (.array folded.repeated) folded.members)

/-- The object of a list of members, of which keys may repeat. -/
def foldMembers (members : List (String × Json)) : Json :=
  (members.foldl Folded.push ⟨[], []⟩).toJson

mutual

/-- The member of a criterion. -/
def criterionToJson : Criterion → String × Json
  | .column column condition => (column.key, condition.toJson)
  | .conjunction filters => (conjunctionKey, .array (groupToJson filters))
  | .disjunction filters => (disjunctionKey, .array (groupToJson filters))

def membersToJson : List Criterion → List (String × Json)
  | [] => []
  | criterion :: rest => criterionToJson criterion :: membersToJson rest

def groupToJson : List (List Criterion) → List Json
  | [] => []
  | filter :: rest => foldMembers (membersToJson filter) :: groupToJson rest

end

/-- The document of a filter. -/
def toJson (filter : Filter) : Json := foldMembers (membersToJson filter)

end Filter

end EntityMapper
