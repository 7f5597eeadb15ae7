import EntityMapper.Entity.Attachment
import EntityMapper.Proofs.Entity.Equality

set_option autoImplicit false

/-! What attaching does to an instance: under the name of the association it adds to what is there,
and everything else stays as it is. -/

namespace EntityMapper

namespace Entity

/-- The instance without what is attached to it. -/
def bare (entity : Entity) : Entity := entity.withRelations []

@[simp] theorem bare_withRelations (relations : List (String × Related)) (entity : Entity) :
    (entity.withRelations relations).bare = entity.bare := by cases entity; rfl

theorem withRelations_self (entity : Entity) : entity.withRelations entity.relations = entity := by
  cases entity; rfl

theorem withRelations_bare (relations : List (String × Related)) (entity : Entity) :
    entity.bare.withRelations relations = entity.withRelations relations := by cases entity; rfl

theorem ext_of_bare {left right : Entity} (bare : left.bare = right.bare)
    (relations : left.relations = right.relations) : left = right := by
  rw [← withRelations_self left, ← withRelations_bare, bare, relations, withRelations_bare,
    withRelations_self]

theorem isSame_bare (left right : Entity) : left.bare.isSame right.bare = left.isSame right := by
  cases left; cases right; rfl

/-- What is attached is not compared. -/
theorem isSame_congr {left right other another : Entity} (first : left.bare = other.bare)
    (second : right.bare = another.bare) : left.isSame right = other.isSame another := by
  rw [← isSame_bare left, ← isSame_bare other, first, second]

/-- Two instances differ at most in what is attached under one name. -/
structure SameBut (name : String) (before after : Entity) : Prop where
  bare : after.bare = before.bare
  others : ∀ other, other ≠ name → after.related? other = before.related? other
  sorted : Entries.Sorted before.relations → Entries.Sorted after.relations

namespace SameBut

variable {name : String} {first second third : Entity}

theorem refl (name : String) (entity : Entity) : SameBut name entity entity :=
  ⟨rfl, fun _ _ => rfl, id⟩

theorem trans (left : SameBut name first second) (right : SameBut name second third) :
    SameBut name first third :=
  ⟨right.bare.trans left.bare,
    fun other different => (right.others other different).trans (left.others other different),
    fun sorted => right.sorted (left.sorted sorted)⟩

end SameBut

theorem sameBut_put (name : String) (related : Related) (entity : Entity) :
    SameBut name entity (entity.put name related) := by
  refine ⟨bare_withRelations _ _, ?_, ?_⟩
  · intro other different
    rw [related?, put, relations_withRelations, Entries.get?_insert_of_ne _ _ different, related?]
  · intro sorted
    rw [put, relations_withRelations]
    exact Entries.sorted_insert name related sorted

@[simp] theorem related?_put_self (name : String) (related : Related) (entity : Entity) :
    (entity.put name related).related? name = some related := by
  rw [related?, put, relations_withRelations, Entries.get?_insert_self]

theorem sameBut_initMany (name : String) (entity : Entity) :
    SameBut name entity (entity.initMany name) := by
  rw [initMany]
  split
  · exact SameBut.refl name entity
  · exact sameBut_put name _ entity

theorem related?_initMany (name : String) (entity : Entity) :
    (entity.initMany name).related? name = some ((entity.related? name).getD (.many [])) := by
  rw [initMany]
  cases before : entity.related? name with
  | none =>
      rw [Option.isSome_none, if_neg Bool.false_ne_true, related?_put_self, Option.getD_none]
  | some related => rw [Option.isSome_some, if_pos rfl, before, Option.getD_some]

/-- The collection that is attached, none for a single instance. -/
def collection : Option Related → List Entity
  | some (.many items) => items
  | _ => []

/-- A collection with one more instance, which its double takes over. -/
def withItem (items : List Entity) (child : Entity) : List Entity :=
  updateFirst (fun existing => existing.isSame child) (fun existing => existing.merge child) child
    items

/-- The single instance that is attached after another one. -/
def single (before : Option Related) (child : Entity) : Entity :=
  match before with
  | some (.one existing) => if existing.isSame child then existing.merge child else child
  | _ => child

theorem attachOne_eq (entity : Entity) (name : String) (child : Entity) :
    attachOne entity name child = entity.put name (.one (single (entity.related? name) child)) := by
  obtain ⟨schema, fields, stored, relations, state⟩ := child
  unfold attachOne
  cases entity.related? name with
  | none => rfl
  | some related =>
      cases related with
      | many items => rfl
      | one existing =>
          dsimp only [single]
          split <;> rfl

theorem attachMany_eq (entity : Entity) (name : String) (child : Entity) :
    attachMany entity name child =
      entity.put name (.many (withItem (collection (entity.related? name)) child)) := by
  obtain ⟨schema, fields, stored, relations, state⟩ := child
  rfl

/-- What is attached under a name after something else is attached under it. -/
def joined (before : Option Related) : Related → Related
  | .one child => .one (single before child)
  | .many children =>
      children.foldl (fun sofar child => .many (withItem (collection (some sofar)) child))
        (before.getD (.many []))

/-- What is attached under a name after what may be attached under it. -/
def joined? (before after : Option Related) : Option Related :=
  match after with
  | some related => some (joined before related)
  | none => before

theorem sameBut_attachAll (name : String) (children : List Entity) (entity : Entity) :
    SameBut name entity (attachAll entity name children) := by
  induction children generalizing entity with
  | nil => exact SameBut.refl name entity
  | cons child rest ih =>
      rw [attachAll, attachMany_eq]
      exact (sameBut_put name _ entity).trans (ih _)

theorem related?_attachAll {name : String} {children : List Entity} {entity : Entity}
    {before : Related} (attached : entity.related? name = some before) :
    (attachAll entity name children).related? name =
      some (children.foldl (fun sofar child => .many (withItem (collection (some sofar)) child))
        before) := by
  induction children generalizing entity before with
  | nil => exact attached
  | cons child rest ih =>
      rw [attachAll, attachMany_eq, attached, List.foldl_cons]
      exact ih (related?_put_self _ _ _)

theorem sameBut_attach (name : String) (related : Related) (entity : Entity) :
    SameBut name entity (attach entity name related) := by
  cases related with
  | one child =>
      rw [attach, attachOne_eq]
      exact sameBut_put name _ entity
  | many children =>
      rw [attach]
      exact (sameBut_initMany name entity).trans (sameBut_attachAll name children _)

theorem related?_attach (name : String) (related : Related) (entity : Entity) :
    (attach entity name related).related? name =
      some (joined (entity.related? name) related) := by
  cases related with
  | one child => rw [attach, attachOne_eq, related?_put_self, joined]
  | many children => rw [attach, related?_attachAll (related?_initMany name entity), joined]

theorem bare_mergeRelations (relations : List (String × Related)) (entity : Entity) :
    (mergeRelations entity relations).bare = entity.bare := by
  induction relations generalizing entity with
  | nil => rfl
  | cons entry rest ih =>
      rw [mergeRelations, ih]
      exact (sameBut_attach entry.1 entry.2 entity).bare

theorem sorted_mergeRelations {relations : List (String × Related)} {entity : Entity}
    (sorted : Entries.Sorted entity.relations) :
    Entries.Sorted (mergeRelations entity relations).relations := by
  induction relations generalizing entity with
  | nil => exact sorted
  | cons entry rest ih =>
      rw [mergeRelations]
      exact ih ((sameBut_attach entry.1 entry.2 entity).sorted sorted)

/-- Each relation is joined to what is there under its name. -/
theorem related?_mergeRelations {relations : List (String × Related)}
    (sorted : Entries.Sorted relations) (entity : Entity) (name : String) :
    (mergeRelations entity relations).related? name =
      joined? (entity.related? name) (Entries.get? name relations) := by
  induction relations generalizing entity with
  | nil => rfl
  | cons entry rest ih =>
      obtain ⟨key, related⟩ := entry
      have later := (List.pairwise_cons.1 sorted).1
      rw [mergeRelations, ih (List.pairwise_cons.1 sorted).2, Entries.get?_cons]
      by_cases here : name = key
      · rw [here, Entries.get?_eq_none_of_lt later, if_pos rfl]
        exact related?_attach key related entity
      · rw [if_neg here, (sameBut_attach key related entity).others name here]

end Entity

end EntityMapper
