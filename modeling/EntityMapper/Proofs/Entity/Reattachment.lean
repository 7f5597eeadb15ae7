import EntityMapper.Proofs.Entity.Settled
import EntityMapper.Proofs.Keyed

set_option autoImplicit false

/-! Attaching the same instance again. Whatever an instance has taken over once it takes over a
second time without any change, at every depth, as long as no collection holds two instances that
match. -/

namespace EntityMapper.Entity

variable {entity parent child existing : Entity} {items children : List Entity} {name : String}
  {related : Related}

@[simp] theorem put_put_self (name : String) (related : Related) (entity : Entity) :
    (entity.put name related).put name related = entity.put name related := by
  obtain ⟨schema, fields, stored, relations, state⟩ := entity
  unfold put
  simp only [relations_withRelations, Entries.insert_insert_self]
  rfl

/-- The first instance of a collection that matches another one has taken over what is attached to
it. -/
inductive HeldBy (child : Entity) : List Entity → Prop where
  | here {item : Entity} {rest : List Entity} (same : item.isSame child = true)
      (taken : item.merge child = item) : HeldBy child (item :: rest)
  | later {item : Entity} {rest : List Entity} (different : item.isSame child = false)
      (further : HeldBy child rest) : HeldBy child (item :: rest)

theorem HeldBy.withItem_eq (holds : child.HeldBy items) : withItem items child = items := by
  induction holds with
  | here same taken =>
      unfold withItem updateFirst
      rw [if_pos same, taken]
  | later different further ih =>
      unfold withItem updateFirst
      rw [different, if_neg Bool.false_ne_true]
      exact congrArg (List.cons _) ih

theorem isSame_merge (existing child other : Entity) :
    (existing.merge child).isSame other = existing.isSame other :=
  isSame_congr (bare_mergeRelations _ _) rfl

/-- A collection holds what is added to it. -/
theorem heldBy_withItem (read : child.Read) (itself : child.merge child = child)
    (again : ∀ item ∈ items, (item.merge child).merge child = item.merge child) :
    child.HeldBy (withItem items child) := by
  induction items with
  | nil => exact .here read.isSame_self itself
  | cons item rest ih =>
      rw [List.forall_mem_cons] at again
      unfold withItem updateFirst
      by_cases same : item.isSame child = true
      · rw [if_pos same]
        exact .here ((isSame_merge item child child).trans same) again.1
      · rw [if_neg same]
        exact .later (Bool.not_eq_true _ ▸ same) (ih again.2)

/-- A collection goes on to hold an instance when one is added that does not match it. -/
theorem HeldBy.withItem {other : Entity} (holds : child.HeldBy items) (read : child.Read)
    (readOther : other.Read) (readItems : ∀ item ∈ items, item.Read)
    (different : child.isSame other = false) : child.HeldBy (withItem items other) := by
  induction holds with
  | @here item rest same taken =>
      have readItem := readItems item List.mem_cons_self
      -- An item that matches both would make them match each other.
      have unlike : item.isSame other = false := by
        rw [← Bool.not_eq_true]
        intro matching
        have back : child.isSame item = true := (read.isSame_comm readItem).trans same
        have both := read.isSame_trans readItem readOther back matching
        rw [different] at both
        exact Bool.false_ne_true both
      unfold Entity.withItem updateFirst
      rw [unlike, if_neg Bool.false_ne_true]
      exact .here same taken
  | @later item rest unlike further ih =>
      rw [List.forall_mem_cons] at readItems
      unfold Entity.withItem updateFirst
      split
      · exact .later ((isSame_merge item other child).trans unlike) further
      · exact .later unlike (ih readItems.2)

/-- An instance takes itself over without a change, and what takes it over does so a second time. -/
def Idempotent (child : Entity) : Prop :=
  child.merge child = child ∧
    ∀ existing : Entity, existing.Settled →
      (existing.merge child).merge child = existing.merge child

theorem HeldBy.withItems (holds : child.HeldBy items) (read : child.Read)
    (settled : ∀ item ∈ items, item.Settled) (further : ∀ other ∈ children, other.Settled)
    (different : ∀ other ∈ children, child.isSame other = false) :
    child.HeldBy (children.foldl Entity.withItem items) := by
  induction children generalizing items with
  | nil => exact holds
  | cons other rest ih =>
      rw [List.forall_mem_cons] at further different
      rw [List.foldl_cons]
      apply ih _ (Settled.withItem settled further.1) further.2 different.2
      exact holds.withItem read further.1.isRead (fun item member => (settled item member).isRead)
        different.1

/-- Instances that are added one after the other, no two of which match, are all held. -/
theorem heldBy_withItems (settled : ∀ item ∈ items, item.Settled)
    (further : ∀ child ∈ children, child.Settled)
    (idempotent : ∀ child ∈ children, child.Idempotent) (apart : Related.Apart (.many children)) :
    ∀ child ∈ children, child.HeldBy (children.foldl withItem items) := by
  induction children generalizing items with
  | nil => simp
  | cons child rest ih =>
      rw [List.forall_mem_cons] at further idempotent
      obtain ⟨alone, others⟩ := List.pairwise_cons.1 apart
      have added := Settled.withItem settled further.1
      have first : child.HeldBy (withItem items child) :=
        heldBy_withItem further.1.isRead idempotent.1.1
          fun item member => idempotent.1.2 item (settled item member)
      rw [List.foldl_cons, List.forall_mem_cons]
      constructor
      · exact first.withItems further.1.isRead added further.2 fun other member =>
          (alone other member).1
      · exact ih added further.2 idempotent.2 others

/-- No two instances of a collection match, so that it holds each of its own. -/
theorem heldBy_of_mem (settled : ∀ child ∈ children, child.Settled)
    (idempotent : ∀ child ∈ children, child.Idempotent) (apart : Related.Apart (.many children)) :
    ∀ child ∈ children, child.HeldBy children := by
  induction children with
  | nil => simp
  | cons first rest ih =>
      rw [List.forall_mem_cons] at settled idempotent
      obtain ⟨alone, others⟩ := List.pairwise_cons.1 apart
      rw [List.forall_mem_cons]
      constructor
      · exact .here settled.1.isRead.isSame_self idempotent.1.1
      · intro child member
        exact .later (alone child member).1 (ih settled.2 idempotent.2 others child member)

/-- What is attached under a name includes something else that is attached there. -/
inductive Includes : Related → Related → Prop where
  | one {existing child : Entity} (same : existing.isSame child = true)
      (taken : existing.merge child = existing) : Includes (.one existing) (.one child)
  | nothing (related : Related) : Includes related (.many [])
  | many {items children : List Entity} (holds : ∀ child ∈ children, child.HeldBy items) :
      Includes (.many items) (.many children)

theorem foldl_withItem_eq (holds : ∀ child ∈ children, child.HeldBy items) :
    children.foldl withItem items = items := by
  induction children with
  | nil => rfl
  | cons child rest ih =>
      rw [List.forall_mem_cons] at holds
      rw [List.foldl_cons, holds.1.withItem_eq]
      exact ih holds.2

theorem joined_many (before : Option Related) (child : Entity) (rest : List Entity) :
    joined before (.many (child :: rest)) =
      .many ((child :: rest).foldl withItem (collection before)) := by
  have whole : ∀ (children items : List Entity),
      children.foldl (fun sofar child => Related.many (withItem (collection (some sofar)) child))
        (.many items) = .many (children.foldl withItem items) := by
    intro children
    induction children with
    | nil => exact fun items => rfl
    | cons child rest ih => exact fun items => ih (withItem items child)
  cases before with
  | none => exact whole rest _
  | some related =>
      cases related with
      | one existing => exact whole rest _
      | many items => exact whole rest _

theorem Includes.joined_eq {further : Related} (includes : Includes related further) :
    joined (some related) further = related := by
  cases includes with
  | one same taken =>
      rw [joined, single, if_pos same, taken]
  | nothing related => rfl
  | @many items children holds =>
      cases children with
      | nil => rfl
      | cons child rest =>
          rw [joined_many]
          exact congrArg Related.many (foldl_withItem_eq holds)

/-- What is attached includes itself, and once it has been joined to something it is included. -/
theorem includes_self (settled : ∀ next ∈ related.members, next.Settled) (apart : related.Apart)
    (idempotent : ∀ next ∈ related.members, next.Idempotent) : Includes related related := by
  cases related with
  | one child =>
      have member := List.mem_singleton_self child
      exact .one (settled child member).isRead.isSame_self (idempotent child member).1
  | many children => exact .many (heldBy_of_mem settled idempotent apart)

theorem includes_joined {before : Option Related}
    (held : ∀ found, before = some found → ∀ next ∈ found.members, next.Settled)
    (settled : ∀ next ∈ related.members, next.Settled) (apart : related.Apart)
    (idempotent : ∀ next ∈ related.members, next.Idempotent) :
    Includes (joined before related) related := by
  cases related with
  | one child =>
      have member := List.mem_singleton_self child
      have alone : Includes (.one child) (.one child) :=
        includes_self settled apart idempotent
      rw [joined]
      unfold single
      split
      · rename_i existing
        split
        · rename_i same
          have before := held _ rfl existing (List.mem_singleton_self existing)
          exact .one ((isSame_merge existing child child).trans same)
            ((idempotent child member).2 existing before)
        · exact alone
      · exact alone
  | many children =>
      cases children with
      | nil => exact .nothing _
      | cons child rest =>
          have items : ∀ item ∈ collection before, item.Settled := forall_mem_collection held
          rw [joined_many]
          exact .many (heldBy_withItems items settled idempotent apart)

/-- An instance that includes, under each name, what another one has there takes it over without a
change. -/
theorem merge_eq_self {target : Entity} (sortedTarget : Entries.Sorted target.relations)
    (sorted : Entries.Sorted child.relations)
    (includes : ∀ name related, child.related? name = some related →
      ∃ held, target.related? name = some held ∧ Includes held related) :
    target.merge child = target := by
  apply ext_of_bare (bare_mergeRelations _ _)
  apply Entries.ext_of_sorted (sorted_mergeRelations sortedTarget) sortedTarget
  intro name
  show (mergeRelations target child.relations).related? name = target.related? name
  rw [related?_mergeRelations sorted]
  cases found : child.related? name with
  | none =>
      have missing : Entries.get? name child.relations = none := found
      rw [missing, joined?]
  | some related =>
      obtain ⟨held, there, included⟩ := includes name related found
      have listed : Entries.get? name child.relations = some related := found
      rw [listed, joined?, there, included.joined_eq]

/-- The induction is on what is attached to the instance that is taken over. -/
theorem Settled.idempotent (settled : child.Settled) : child.Idempotent := by
  induction child using attached_induction with
  | step child ih =>
      have below : ∀ name related, child.related? name = some related → related.Apart ∧
          (∀ next ∈ related.members, next.Settled) ∧
          ∀ next ∈ related.members, next.Idempotent := by
        intro name related found
        have listed := Entries.mem_of_get? found
        obtain ⟨apart, settledBelow⟩ := settled.attached listed
        exact ⟨apart, settledBelow,
          fun next member => ih name related listed next member (settledBelow next member)⟩
      constructor
      · apply merge_eq_self settled.sorted settled.sorted
        intro name related found
        obtain ⟨apart, settledBelow, idempotent⟩ := below name related found
        exact ⟨related, found, includes_self settledBelow apart idempotent⟩
      · intro existing before
        apply merge_eq_self (before.merge settled).sorted settled.sorted
        intro name related found
        obtain ⟨apart, settledBelow, idempotent⟩ := below name related found
        have listed : Entries.get? name child.relations = some related := found
        refine ⟨joined (existing.related? name) related, ?_, ?_⟩
        · show (mergeRelations existing child.relations).related? name = _
          rw [related?_mergeRelations settled.sorted, listed, joined?]
        · apply includes_joined _ settledBelow apart idempotent
          exact fun _ there => before.of_related? there

namespace Shelf

private def key : Column := ⟨"id", "id", .int, none, none, none, false, true, false, false, []⟩

private def row (type table : String) (id : Int64) : Entity :=
  let record : Record := Keyed.empty.insert "id" (.int id)
  .mk ⟨type, table, [key], [], key, List.mem_cons_self⟩ record (some record) [] .persisted

private theorem settled_row (type table : String) (id : Int64) : (row type table id).Settled := by
  apply settled_of_bare _ rfl
  exact ⟨Keyed.empty.insert "id" (.int id), rfl, List.forall_mem_singleton.2 rfl⟩

/-- A book with one of its tags. -/
def tagged (tag : Int64) : Entity :=
  attachMany (row "Book" "books" 10) "tags" (row "Tag" "tags" tag)

theorem settled_tagged (tag : Int64) : (tagged tag).Settled :=
  (settled_row "Book" "books" 10).attachMany (settled_row "Tag" "tags" tag) "tags"

/-- An author with the book under its first tag. -/
def author : Entity := attachMany (row "Author" "authors" 1) "books" (tagged 1)

theorem settled_author : author.Settled :=
  (settled_row "Author" "authors" 1).attachMany (settled_tagged 1) "books"

end Shelf

/-- An instance that is attached a second time, to a collection or as a single one, leaves exactly
the tree that the first time made, and no collection of this tree holds two instances that match. -/
theorem attach_again {parent child : Entity} (settledParent : parent.Settled)
    (settledChild : child.Settled) (name : String) :
    attachMany (attachMany parent name child) name child = attachMany parent name child ∧
      attachOne (attachOne parent name child) name child = attachOne parent name child ∧
      (attachMany parent name child).Settled ∧ (attachOne parent name child).Settled := by
  obtain ⟨itself, again⟩ := settledChild.idempotent
  refine ⟨?_, ?_, settledParent.attachMany settledChild name,
    settledParent.attachOne settledChild name⟩
  · have holds : child.HeldBy (withItem (collection (parent.related? name)) child) :=
      heldBy_withItem settledChild.isRead itself fun item member =>
        again item (forall_mem_collection (fun _ => settledParent.of_related?) item member)
    rw [attachMany_eq parent, attachMany_eq, related?_put_self]
    show put name (.many (withItem (withItem _ child) child)) _ = _
    rw [holds.withItem_eq, put_put_self]
  · have included : Includes (joined (parent.related? name) (.one child)) (.one child) := by
      apply includes_joined
      · exact fun _ there => settledParent.of_related? there
      · exact List.forall_mem_singleton.2 settledChild
      · trivial
      · exact List.forall_mem_singleton.2 settledChild.idempotent
    have same := included.joined_eq
    simp only [joined] at same
    simp only [attachOne_eq, related?_put_self, same, put_put_self]

/-- The book under another tag is taken over by the book that is there, once and for all. -/
theorem attach_again_shelf :
    Shelf.author.Settled ∧ (Shelf.tagged 2).Settled ∧
      attachMany (attachMany Shelf.author "books" (Shelf.tagged 2)) "books" (Shelf.tagged 2) =
        attachMany Shelf.author "books" (Shelf.tagged 2) ∧
      ((attachMany Shelf.author "books" (Shelf.tagged 2)).many? "books").map
        (fun books => books.map fun book => (book.many? "tags").map List.length) =
          some [some 2] :=
  ⟨Shelf.settled_author, Shelf.settled_tagged 2,
    (attach_again Shelf.settled_author (Shelf.settled_tagged 2) "books").1, rfl⟩

end EntityMapper.Entity
