import EntityMapper.Schema.DataType
import EntityMapper.Value.Basic

set_option autoImplicit false

/-! Values that are made up when they are needed: the clock, fresh identifiers, and generators
with a state of their own. -/

namespace EntityMapper

/-- Where made-up values come from. -/
structure Supply where
  /-- The current local time. -/
  now : DateTime
  /-- The identifiers of the time-based kind, in the order in which they are handed out. -/
  timeIdentifier : Nat → String
  /-- The identifiers of the random kind, in the order in which they are handed out. -/
  randomIdentifier : Nat → String
  /-- How many identifiers have been handed out. -/
  identifiers : Nat
  /-- The state that all generators share. -/
  seed : Nat

instance : Inhabited Supply := ⟨⟨default, fun _ => "", fun _ => "", 0, 0⟩⟩

/-- A computation that may use up made-up values. -/
abbrev Draw := StateM Supply

/-- How a column gets a value when none is given. -/
inductive DefaultValue where
  | fixed (value : Value)
  /-- A function of the shared state that gives a value and the next state. -/
  | generator (draw : Nat → Value × Nat)
  | now
  | timeIdentifier
  | randomIdentifier

namespace DefaultValue

/-- The value for a column of a type. -/
def draw (type : DataType) : DefaultValue → Draw Value
  | .fixed value => pure value
  | .generator step => fun supply =>
      let (value, seed) := step supply.seed
      (value, { supply with seed })
  | .now => fun supply =>
      (if type = .date then .date supply.now.date else .dateTime supply.now, supply)
  | .timeIdentifier => fun supply =>
      (.text (supply.timeIdentifier supply.identifiers),
        { supply with identifiers := supply.identifiers + 1 })
  | .randomIdentifier => fun supply =>
      (.text (supply.randomIdentifier supply.identifiers),
        { supply with identifiers := supply.identifiers + 1 })

def fixed? : DefaultValue → Option Value
  | .fixed value => some value
  | _ => none

end DefaultValue

end EntityMapper
