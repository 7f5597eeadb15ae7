import EntityMapper.Number.Integer

set_option autoImplicit false

/-! Documents of the JSON data model, with members in the order in which they stand. -/

namespace EntityMapper

/-- A JSON document. -/
inductive Json where
  | null
  | bool (value : Bool)
  | integer (value : Int)
  | float (value : Float)
  | text (value : String)
  | array (items : List Json)
  | object (members : List (String × Json))

namespace Json

instance : Inhabited Json := ⟨.null⟩

/-- Replaces the value of a key where it stands first, or adds it at the end. -/
def putMember (key : String) (value : Json) : List (String × Json) → List (String × Json)
  | [] => [(key, value)]
  | member :: rest =>
      if member.1 = key then (key, value) :: rest else member :: putMember key value rest

@[simp] theorem putMember_nil (key : String) (value : Json) :
    putMember key value [] = [(key, value)] := rfl

theorem putMember_cons (key : String) (value : Json) (member : String × Json)
    (rest : List (String × Json)) :
    putMember key value (member :: rest) =
      if member.1 = key then (key, value) :: rest else member :: putMember key value rest := rfl

theorem putMember_of_notMem (key : String) (value : Json) (members : List (String × Json))
    (fresh : key ∉ members.map Prod.fst) :
    putMember key value members = members ++ [(key, value)] := by
  induction members with
  | nil => rfl
  | cons member rest ih =>
      rw [List.map_cons, List.mem_cons, not_or] at fresh
      rw [putMember_cons, if_neg (Ne.symm fresh.1), ih fresh.2, List.cons_append]

/-- Members with each key once: the last value, at the first place. -/
def ofMembers (members : List (String × Json)) : List (String × Json) :=
  members.foldl (fun found member => putMember member.1 member.2 found) []

/-- The value of a key. -/
def member? (key : String) : Json → Option Json
  | .object members => members.lookup key
  | _ => none

end Json

end EntityMapper
