import EntityMapper.Entity.Attachment
import EntityMapper.Plan.Basic

set_option autoImplicit false

/-! Entities from joined rows. One instance per level is held; where a row differs from what is
held, the levels from there on are attached to their owners, the deepest first. -/

namespace EntityMapper

/-- The instances of one row, one for each level that has a slice in it. -/
abbrev Slices := List (Option Entity)

/-- Instances that may still get others attached, and roots that are finished. -/
structure Assembly where
  held : Slices
  finished : List Entity

namespace Assembly

/-- Nothing held at any level. -/
def start (plan : Plan) : Assembly := ⟨plan.levels.map fun _ => none, []⟩

/-- The number of leading levels at which a row is the same as what is held. -/
def matchingLevels : Slices → Slices → Nat
  | some held :: rest, some current :: others =>
      if held.isSame current then matchingLevels rest others + 1 else 0
  | none :: rest, none :: others => matchingLevels rest others + 1
  | _, _ => 0

/-- Attaches an instance of a level to its owner. -/
def attachAt (level : Level) (origin : Origin) (child owner : Entity) : Entity :=
  match level.cardinality with
  | .one => owner.attachOne origin.association.name child
  | .many => owner.attachMany origin.association.name child

/-- Attaches what is held at a level to its owner, if there is one, and holds it no longer. -/
def foldLevel (levels : List Level) (held : Slices) (index : Nat) : Slices :=
  match held[index]?, levels[index]? with
  | some (some child), some level =>
      match level.origin with
      | some origin =>
          (held.set index none).modify origin.parent fun owner =>
            owner.map (attachAt level origin child)
      | none => held
  | _, _ => held

/-- The indices of all levels from one on, the deepest first. -/
def indicesFrom (levels : List Level) (first : Nat) : List Nat :=
  (List.range' first (levels.length - first)).reverse

/-- Attaches what is held from a level on; a root is then finished. -/
def flush (plan : Plan) (first : Nat) (assembly : Assembly) : Assembly :=
  let folded :=
    (indicesFrom plan.levels (max first 1)).foldl (foldLevel plan.levels) assembly.held
  if first = 0 then
    match folded with
    | some root :: rest => ⟨none :: rest, assembly.finished ++ [root]⟩
    | _ => { assembly with held := folded }
  else { assembly with held := folded }

/-- Gives an instance of a level its collections, all empty. -/
def withCollections (plan : Plan) (index : Nat) (entity : Entity) : Entity :=
  plan.levels.foldl
    (fun owner level =>
      match level.origin with
      | some origin =>
          if origin.parent = index ∧ level.cardinality = .many then
            owner.initMany origin.association.name
          else owner
      | none => owner)
    entity

/-- The slices of a row, each instance with its collections. -/
def prepared (plan : Plan) (row : Slices) : Slices :=
  row.mapIdx fun index entity => entity.map (withCollections plan index)

/-- Holds the slices of a row from a level on. -/
def hold (plan : Plan) (first : Nat) (row : Slices) (assembly : Assembly) : Assembly :=
  { assembly with held := assembly.held.take first ++ (prepared plan row).drop first }

/-- Takes in a row that has a root. -/
def push (plan : Plan) (row : Slices) (assembly : Assembly) : Assembly :=
  let first := matchingLevels assembly.held row
  if first < row.length then hold plan first row (flush plan first assembly) else assembly

/-- The finished roots, with all that is held. -/
def result (plan : Plan) (assembly : Assembly) : List Entity := (flush plan 0 assembly).finished

/-- Whether a row belongs to another root than the one held. -/
def startsNext (row : Slices) (assembly : Assembly) : Bool :=
  matchingLevels assembly.held row = 0 && (assembly.held.head?.join).isSome

end Assembly

namespace Plan

/-- The slice of a level in a row, if some column of it holds a value. Roots may also be in a
row that is not split. -/
def slice? (level : Level) (row : Row) : Option Record :=
  let found :=
    match level.origin with
    | none => (row.get? level.label).or row.flat?
    | some _ => row.get? level.label
  found.filter Record.hasValue

/-- A slice is what the row has under the label of the level, or for a root, if there is no such
label, what is not split; all of it null is no slice. -/
theorem slice?_eq_some_iff {level : Level} {row : Row} {record : Record} :
    slice? level row = some record ↔
      (row.get? level.label = some record ∨
        level.origin = none ∧ row.get? level.label = none ∧ row.flat? = some record) ∧
      record.hasValue = true := by
  unfold slice?
  cases level.origin with
  | none =>
      rw [Option.filter_eq_some_iff, Option.or_eq_some_iff]
      simp only [true_and]
  | some origin =>
      rw [Option.filter_eq_some_iff]
      simp only [reduceCtorEq, false_and, or_false]

/-- The instances of a row at the levels given. -/
def drawSlices (row : Row) : List Level → Draw Slices
  | [] => pure []
  | level :: rest => do
      let entity ←
        match slice? level row with
        | some record => some <$> Entity.hydrate level.schema record .storage
        | none => pure none
      return entity :: (← drawSlices row rest)

def hasRoot (row : Slices) : Bool := (row.head?.join).isSome

/-- Takes in rows, one after the other; those without a root are left out. -/
def assemble (plan : Plan) : List Row → Assembly → Draw Assembly
  | [], assembly => pure assembly
  | row :: rest, assembly => do
      let slices ← drawSlices row plan.levels
      assemble plan rest (if hasRoot slices then assembly.push plan slices else assembly)

/-- The entities of joined rows. -/
def materialize (plan : Plan) (rows : List Row) : Draw (List Entity) := do
  return (← plan.assemble rows (.start plan)).result plan

/-- Takes in rows up to the first one of a second root. -/
def assembleFirst (plan : Plan) : List Row → Assembly → Draw Assembly
  | [], assembly => pure assembly
  | row :: rest, assembly => do
      let slices ← drawSlices row plan.levels
      if hasRoot slices then
        if assembly.startsNext slices then return assembly
        else assembleFirst plan rest (assembly.push plan slices)
      else assembleFirst plan rest assembly

/-- The first entity of joined rows. -/
def materializeOne (plan : Plan) (rows : List Row) : Draw (Option Entity) := do
  return ((← plan.assembleFirst rows (.start plan)).result plan).head?

end Plan

end EntityMapper
