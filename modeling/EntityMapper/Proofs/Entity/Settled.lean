import EntityMapper.Proofs.Entity.Descent

set_option autoImplicit false

/-! Instances that were read from rows without NaN, with no two that match in one collection at any
depth. They stay so when one takes over another. -/

namespace EntityMapper

namespace Entity

theorem sizeOf_lt_of_attached {entity next : Entity} {name : String} {related : Related}
    (attached : (name, related) ∈ entity.relations) (member : next ∈ related.members) :
    sizeOf next < sizeOf entity := by
  obtain ⟨schema, fields, stored, relations, state⟩ := entity
  have listed : sizeOf (name, related) < sizeOf relations := List.sizeOf_lt_of_mem attached
  have inside : sizeOf next < sizeOf related := by
    cases related with
    | one entity =>
        obtain rfl := List.mem_singleton.1 member
        simp
    | many entities =>
        have below : sizeOf next < sizeOf entities := List.sizeOf_lt_of_mem member
        simp only [Related.many.sizeOf_spec]
        omega
  simp only [Prod.mk.sizeOf_spec] at listed
  simp only [Entity.mk.sizeOf_spec]
  omega

/-- What holds of each instance of whose attached ones it holds, holds of every instance. -/
@[elab_as_elim]
theorem attached_induction {motive : Entity → Prop}
    (step : ∀ entity : Entity, (∀ name related, (name, related) ∈ entity.relations →
      ∀ next ∈ related.members, motive next) → motive entity) (entity : Entity) : motive entity :=
  step entity fun _ _ attached next member =>
    have : sizeOf next < sizeOf entity := sizeOf_lt_of_attached attached member
    attached_induction step next
termination_by sizeOf entity

variable {entity parent child existing : Entity} {items children : List Entity} {name : String}
  {related : Related}

/-! ### What holds of all instances of a collection -/

theorem forall_mem_collection {motive : Entity → Prop} {before : Option Related}
    (held : ∀ found, before = some found → ∀ next ∈ found.members, motive next) :
    ∀ item ∈ collection before, motive item := by
  unfold collection
  split
  · exact held _ rfl
  · simp

theorem forall_mem_withItem {motive : Entity → Prop} (others : ∀ item ∈ items, motive item)
    (new : motive child)
    (merged : ∀ existing : Entity, motive existing → motive (existing.merge child)) :
    ∀ item ∈ withItem items child, motive item := by
  induction items with
  | nil => exact List.forall_mem_singleton.2 new
  | cons existing rest ih =>
      rw [List.forall_mem_cons] at others
      unfold withItem updateFirst
      split
      · exact List.forall_mem_cons.2 ⟨merged existing others.1, others.2⟩
      · exact List.forall_mem_cons.2 ⟨others.1, ih others.2⟩

/-! ### The order of the names -/

/-- Every instance on the ways down lists what is attached to it in the order of the names. -/
def Ordered (entity : Entity) : Prop :=
  ∀ way last, entity.Reaches way last → Entries.Sorted last.relations

theorem ordered_iff : entity.Ordered ↔ Entries.Sorted entity.relations ∧
    ∀ name related, (name, related) ∈ entity.relations → ∀ next ∈ related.members,
      next.Ordered := by
  constructor
  · intro ordered
    refine ⟨ordered [] entity (.here entity), ?_⟩
    intro name related attached next member way last reached
    exact ordered _ last (.through attached member reached)
  · intro ⟨sorted, below⟩ way last reached
    cases reached with
    | here => exact sorted
    | through attached member further => exact below _ _ attached _ member _ last further

theorem Ordered.attached (ordered : entity.Ordered)
    (attached : (name, related) ∈ entity.relations) : ∀ next ∈ related.members, next.Ordered :=
  (ordered_iff.1 ordered).2 name related attached

theorem Ordered.put (ordered : entity.Ordered) (further : ∀ next ∈ related.members, next.Ordered) :
    (entity.put name related).Ordered := by
  obtain ⟨sorted, below⟩ := ordered_iff.1 ordered
  refine ordered_iff.2 ⟨(sameBut_put name related entity).sorted sorted, ?_⟩
  intro key held attached
  rw [Entity.put, relations_withRelations] at attached
  rcases Entries.mem_insert_of_mem attached with new | old
  · cases new
    exact further
  · exact below key held old

/-- The instance is ordered, and so is every ordered one that takes it over. -/
def Orderly (child : Entity) : Prop :=
  child.Ordered ∧ ∀ existing : Entity, existing.Ordered → (existing.merge child).Ordered

theorem Orderly.attachOne (orderly : child.Orderly) (ordered : entity.Ordered) (name : String) :
    (attachOne entity name child).Ordered := by
  rw [attachOne_eq]
  apply ordered.put
  show ∀ next ∈ [single (entity.related? name) child], next.Ordered
  rw [List.forall_mem_singleton]
  unfold single
  split
  · rename_i existing found
    have before := ordered.attached (Entries.mem_of_get? found) existing (List.mem_singleton_self _)
    split
    · exact orderly.2 existing before
    · exact orderly.1
  · exact orderly.1

theorem Orderly.attachMany (orderly : child.Orderly) (ordered : entity.Ordered) (name : String) :
    (attachMany entity name child).Ordered := by
  rw [attachMany_eq]
  apply ordered.put
  apply forall_mem_withItem _ orderly.1 orderly.2
  exact forall_mem_collection fun _ found => ordered.attached (Entries.mem_of_get? found)

theorem Ordered.attachAll (ordered : entity.Ordered) (orderly : ∀ child ∈ children, child.Orderly) :
    (attachAll entity name children).Ordered := by
  induction children generalizing entity with
  | nil => exact ordered
  | cons child rest ih =>
      rw [List.forall_mem_cons] at orderly
      rw [Entity.attachAll]
      exact ih (orderly.1.attachMany ordered name) orderly.2

theorem Ordered.attach (ordered : entity.Ordered)
    (orderly : ∀ next ∈ related.members, next.Orderly) : (attach entity name related).Ordered := by
  cases related with
  | one child =>
      rw [Entity.attach]
      exact (orderly child (List.mem_singleton_self _)).attachOne ordered name
  | many children =>
      rw [Entity.attach]
      apply Ordered.attachAll _ orderly
      unfold initMany
      split
      · exact ordered
      · exact ordered.put (by simp [Related.members])

theorem Ordered.mergeRelations {relations : List (String × Related)} (ordered : entity.Ordered)
    (orderly : ∀ name related, (name, related) ∈ relations → ∀ next ∈ related.members,
      next.Orderly) : (mergeRelations entity relations).Ordered := by
  induction relations generalizing entity with
  | nil => exact ordered
  | cons entry rest ih =>
      rw [Entity.mergeRelations]
      apply ih (ordered.attach (orderly entry.1 entry.2 List.mem_cons_self))
      intro name related later
      exact orderly name related (List.mem_cons_of_mem _ later)

theorem Ordered.orderly (ordered : child.Ordered) : child.Orderly := by
  induction child using attached_induction with
  | step child ih =>
      refine ⟨ordered, fun existing before => ?_⟩
      apply before.mergeRelations
      intro name related attached next member
      exact ih name related attached next member (ordered.attached attached next member)

/-! ### Instances that were read, none of them twice in a collection -/

/-- Every instance on the ways down was read from a row without NaN, has no two instances that match
in one collection, and lists what is attached to it in the order of the names. -/
structure Settled (entity : Entity) : Prop where
  read : ∀ way last, entity.Reaches way last → last.Read
  apart : ∀ way last, entity.Reaches way last → last.Apart
  ordered : entity.Ordered

theorem settled_of_tidy (tidy : entity.Tidy fun _ => True) (ordered : entity.Ordered) :
    entity.Settled :=
  ⟨fun way last reached => (tidy way last reached).2.1,
    fun way last reached => (tidy way last reached).2.2, ordered⟩

/-- An instance that was read and has nothing attached to it. -/
theorem settled_of_bare (read : entity.Read) (bare : entity.relations = []) : entity.Settled := by
  apply settled_of_tidy (tidy_of_bare trivial read bare)
  rw [ordered_iff, bare]
  exact ⟨List.Pairwise.nil, by simp⟩

namespace Settled

theorem tidy (settled : entity.Settled) : entity.Tidy fun _ => True :=
  fun way last reached => ⟨trivial, settled.read way last reached, settled.apart way last reached⟩

theorem sorted (settled : entity.Settled) : Entries.Sorted entity.relations :=
  (ordered_iff.1 settled.ordered).1

theorem isRead (settled : entity.Settled) : entity.Read := settled.tidy.read

theorem attached (settled : entity.Settled) (attached : (name, related) ∈ entity.relations) :
    related.Apart ∧ ∀ next ∈ related.members, next.Settled := by
  obtain ⟨apart, below⟩ := settled.tidy.attached attached
  refine ⟨apart, fun next member => ?_⟩
  exact settled_of_tidy (below next member) (settled.ordered.attached attached next member)

theorem of_related? (settled : entity.Settled) {found : Related}
    (there : entity.related? name = some found) : ∀ next ∈ found.members, next.Settled :=
  (settled.attached (Entries.mem_of_get? there)).2

/-- Ways may lead anywhere. -/
theorem congruent : Congruent fun _ => True := fun _ _ _ _ _ _ _ _ _ => trivial

theorem merge (settled : existing.Settled) (further : child.Settled) :
    (existing.merge child).Settled :=
  settled_of_tidy
    (tidy_mergeRelations congruent settled.tidy child.relations fun _ _ => further.tidy.attached)
    (further.ordered.orderly.2 existing settled.ordered)

theorem attachOne (settled : parent.Settled) (further : child.Settled) (name : String) :
    (attachOne parent name child).Settled :=
  settled_of_tidy (tidy_attachOne congruent settled.tidy name child further.tidy)
    (further.ordered.orderly.attachOne settled.ordered name)

theorem attachMany (settled : parent.Settled) (further : child.Settled) (name : String) :
    (attachMany parent name child).Settled :=
  settled_of_tidy (tidy_attachMany congruent settled.tidy name child further.tidy)
    (further.ordered.orderly.attachMany settled.ordered name)

theorem withItem (settled : ∀ item ∈ items, item.Settled) (further : child.Settled) :
    ∀ item ∈ withItem items child, item.Settled :=
  forall_mem_withItem settled further fun _ before => before.merge further

end Settled

end Entity

end EntityMapper
