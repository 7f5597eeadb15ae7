import EntityMapper.Plan.Assembly

set_option autoImplicit false

/-! What joined rows stand for: an instance for the first of the rows that agree on it, and for each
level below it the distinct instances of those rows, in the order in which they occur first. -/

namespace EntityMapper

namespace Slices

/-- The instance of a row at a level, if it has one. -/
def at? (index : Nat) (row : Slices) : Option Entity := row[index]?.join

/-- Whether a row has the instance given at a level. -/
def has (index : Nat) (entity : Entity) (row : Slices) : Bool :=
  match row.at? index with
  | some other => entity.isSame other
  | none => false

/-- The instances of rows at a level, those of rows without one left out. -/
def present (index : Nat) (rows : List Slices) : List Entity := rows.filterMap (at? index)

/-- The rows that have the instance given at a level. -/
def agreeing (index : Nat) (entity : Entity) (rows : List Slices) : List Slices :=
  rows.filter (has index entity)

/-- Each of several equal instances once, where it occurs first. -/
def distinct : List Entity → List Entity
  | [] => []
  | entity :: rest => entity :: (distinct rest).filter fun other => !entity.isSame other

/-- Both rows have an instance at a level, and it is the same. -/
def Agree (index : Nat) (left right : Slices) : Prop :=
  ∃ entity, left.at? index = some entity ∧ right.has index entity = true

/-- Whether two rows are of one root. -/
def sameRoot (left right : Slices) : Bool :=
  match left.at? 0 with
  | some root => right.has 0 root
  | none => false

end Slices

namespace Plan

/-- The levels whose instances are attached to those of a level, with their associations. -/
def children (plan : Plan) (index : Nat) : List (Nat × Association) :=
  plan.levels.zipIdx.filterMap fun entry =>
    entry.1.origin.bind fun origin =>
      if origin.parent = index ∧ index < entry.2 then some (entry.2, origin.association) else none

theorem mem_children {plan : Plan} {index child : Nat} {association : Association} :
    (child, association) ∈ plan.children index ↔
      ∃ level origin, plan.levels[child]? = some level ∧ level.origin = some origin ∧
        origin.parent = index ∧ index < child ∧ origin.association = association := by
  constructor
  · intro member
    obtain ⟨⟨level, place⟩, listed, chosen⟩ := List.mem_filterMap.1 member
    obtain ⟨origin, found, kept⟩ := Option.bind_eq_some_iff.1 chosen
    split at kept
    · rename_i fits
      cases kept
      exact ⟨level, origin, (List.mk_mem_zipIdx_iff_getElem?).1 listed, found, fits.1, fits.2, rfl⟩
    · cases kept
  · rintro ⟨level, origin, placed, found, parent, below, rfl⟩
    apply List.mem_filterMap.2
    refine ⟨(level, child), (List.mk_mem_zipIdx_iff_getElem?).2 placed, ?_⟩
    rw [found, Option.bind_some, if_pos ⟨parent, below⟩]

theorem child_bounds {plan : Plan} {index : Nat} {below : Nat × Association}
    (member : below ∈ plan.children index) : index < below.1 ∧ below.1 < plan.levels.length := by
  obtain ⟨level, origin, placed, -, -, less, -⟩ := mem_children.1 member
  exact ⟨less, (List.getElem?_eq_some_iff.1 placed).1⟩

/-- The level itself and those from which the roots are reached. -/
inductive Above (plan : Plan) : Nat → Nat → Prop where
  | self (index : Nat) : Above plan index index
  | child {ancestor index child : Nat} {association : Association}
      (above : Above plan ancestor index)
      (member : (child, association) ∈ plan.children index) : Above plan ancestor child

/-- Both rows have the same instances on the way from the roots to a level. -/
def SamePath (plan : Plan) (index : Nat) (left right : Slices) : Prop :=
  ∀ ancestor, plan.Above ancestor index → Slices.Agree ancestor left right

/-- An owner has no two different instances at a level that holds a single one. -/
def OnePerPath (plan : Plan) (rows : List Slices) : Prop :=
  ∀ (index child : Nat) (association : Association),
    (child, association) ∈ plan.children index → association.cardinality = .one →
      ∀ left ∈ rows, ∀ right ∈ rows, plan.SamePath index left right →
        ∀ first second, left.at? child = some first → right.at? child = some second →
          first.isSame second = true

/-- The associations that lead from one level to others have different names. -/
def DistinctNames (plan : Plan) : Prop :=
  ∀ index, (plan.children index).Pairwise fun left right => left.2.name ≠ right.2.name

mutual

/-- The instance of a level that rows stand for, with everything below it. -/
def node (plan : Plan) (index : Nat) (entity : Entity) (rows : List Slices) : Entity :=
  entity.withRelations
    (Keyed.ofList ((plan.children index).attach.filterMap fun below =>
      (plan.attached below.1.1 below.1.2 rows).map
        (below.1.2.name, ·))).entries
termination_by (plan.levels.length - index, 0)
decreasing_by
  have bounds := child_bounds below.2
  exact Prod.Lex.left _ _ (by omega)

/-- What rows of one owner stand for at a level below it: a collection of all distinct instances,
or the one instance that is there. -/
def attached (plan : Plan) (child : Nat) (association : Association) (rows : List Slices) :
    Option Related :=
  match association.cardinality with
  | .many =>
      some (.many ((Slices.distinct (Slices.present child rows)).map fun entity =>
        plan.node child entity (Slices.agreeing child entity rows)))
  | .one =>
      (Slices.present child rows).head?.map fun entity =>
        .one (plan.node child entity (Slices.agreeing child entity rows))
termination_by (plan.levels.length - child, 1)
decreasing_by
  all_goals exact Prod.Lex.right _ (by omega)

end

end Plan

end EntityMapper
