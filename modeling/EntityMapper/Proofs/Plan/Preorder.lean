import EntityMapper.Proofs.Plan.Branches
import Mathlib.Data.List.Forall2

set_option autoImplicit false

/-! The levels of a plan in preorder: behind the roots one level for each association that is asked
for, its own nested ones right behind it. -/

namespace EntityMapper

open Outcome

/-- An association that is asked for: the index of the level of its owners, and the name by which
it is asked for. -/
structure Populate.Node where
  parent : Nat
  target : String
deriving DecidableEq

namespace Populate

mutual

/-- An association and those nested in it, in preorder. Its own level has the index given. -/
def nodes (parent index : Nat) : Populate → List Node
  | .mk target nested => ⟨parent, target⟩ :: nodesAll index (index + 1) nested

/-- Associations from one level on, in preorder. The first of their levels has the index given. -/
def nodesAll (parent index : Nat) : List Populate → List Node
  | [] => []
  | populate :: rest =>
      populate.nodes parent index ++
        nodesAll parent (index + (populate.nodes parent index).length) rest

end

example :
    nodesAll 0 1 [.mk "Book" [.mk "Tag" [], .mk "Author" []], .mk "Tag" []] =
      [⟨0, "Book"⟩, ⟨1, "Tag"⟩, ⟨1, "Author"⟩, ⟨0, "Tag"⟩] := by decide

end Populate

namespace Plan

/-- A level is that of an association that is asked for: its instances are the targets of the
association that the name means, and they are attached to the level of the owners. -/
def StandsFor (registry : Registry) (plan : Plan) (node : Populate.Node) (level : Level) : Prop :=
  ∃ owner association, plan.levels[node.parent]? = some owner ∧
    Resolution.associationFor owner.schema node.target = .ok association ∧
    level.origin = some ⟨node.parent, association⟩ ∧
    registry.get? association.target = some level.schema

theorem StandsFor.keeps {registry : Registry} {plan grown : Plan} {node : Populate.Node}
    {level : Level} (stands : plan.StandsFor registry node level)
    (kept : ∀ (index : Nat) (other : Level), plan.levels[index]? = some other →
      grown.levels[index]? = some other) : grown.StandsFor registry node level := by
  obtain ⟨owner, association, placed, named, attached, found⟩ := stands
  exact ⟨owner, association, kept _ owner placed, named, attached, found⟩

end Plan

namespace Resolution

open Plan

variable {registry : Registry}

/-- The association itself, before those nested in it are followed. -/
theorem Grows.standsFor {before after : Resolution} {parent : Nat} {owner target : Level}
    {association : Association} {name : String}
    (grows : Grows registry before parent owner target association after)
    (named : associationFor owner.schema name = .ok association) :
    before.plan.StandsFor registry ⟨parent, name⟩ target :=
  ⟨owner, association, grows.placed, named, grows.origin, grows.found⟩

mutual

/-- Following an association adds its levels in preorder. -/
theorem nodes_follow {parent : Nat} {owner : Level} : {populate : Populate} →
    {resolution result : Resolution} →
    (success : follow registry parent owner populate resolution = .ok result) →
    (placed : resolution.plan.levels[parent]? = some owner) →
    ∃ added, result.plan.levels = resolution.plan.levels ++ added ∧
      List.Forall₂ (result.plan.StandsFor registry)
        (populate.nodes parent resolution.plan.levels.length) added
  | .mk name nested, resolution, result, success, placed => by
      obtain ⟨association, target, next, named, grows, there, rest⟩ := follow_grows success placed
      obtain ⟨added, levels, stands⟩ := nodes_followAll rest there
      have longer : next.plan.levels.length = resolution.plan.levels.length + 1 := by
        rw [grows.levels, List.length_append, List.length_singleton]
      refine ⟨target :: added, ?_, ?_⟩
      · rw [levels, grows.levels, List.append_assoc, List.singleton_append]
      · rw [Populate.nodes, ← longer]
        refine List.Forall₂.cons ((grows.standsFor named).keeps ?_) stands
        intro index other found
        exact placed_follow success found

theorem nodes_followAll {parent : Nat} {owner : Level} : {populates : List Populate} →
    {resolution result : Resolution} →
    (success : followAll registry parent owner populates resolution = .ok result) →
    (placed : resolution.plan.levels[parent]? = some owner) →
    ∃ added, result.plan.levels = resolution.plan.levels ++ added ∧
      List.Forall₂ (result.plan.StandsFor registry)
        (Populate.nodesAll parent resolution.plan.levels.length populates) added
  | [], resolution, result, success, placed => by
      rw [followAll_nil success]
      exact ⟨[], (List.append_nil _).symm, List.Forall₂.nil⟩
  | populate :: rest, resolution, result, success, placed => by
      obtain ⟨next, first, others⟩ := followAll_cons success
      obtain ⟨added, levelsFirst, stands⟩ := nodes_follow first placed
      obtain ⟨more, levelsRest, standsRest⟩ := nodes_followAll others (placed_follow first placed)
      have longer : next.plan.levels.length = resolution.plan.levels.length +
          (populate.nodes parent resolution.plan.levels.length).length := by
        rw [levelsFirst, List.length_append, stands.length_eq]
      refine ⟨added ++ more, ?_, ?_⟩
      · rw [levelsRest, levelsFirst, List.append_assoc]
      · rw [Populate.nodesAll, ← longer]
        refine List.rel_append (stands.imp ?_) standsRest
        intro node level standing
        exact standing.keeps fun index other found => placed_followAll others found

end

/-- Behind the roots stand the associations that are asked for, in preorder. -/
theorem nodes_ofPopulates {root : EntitySchema} {populates : List Populate}
    {resolution : Resolution}
    (success : ofPopulates registry root populates = .ok resolution) :
    List.Forall₂ (resolution.plan.StandsFor registry) (Populate.nodesAll 0 1 populates)
      resolution.plan.others := by
  obtain ⟨added, levels, stands⟩ := nodes_followAll success rfl
  have others : resolution.plan.others = added := (List.cons.inj levels).2
  rw [others]
  exact stands

end Resolution

end EntityMapper
