import EntityMapper.Proofs.Plan.Merging
import EntityMapper.Proofs.Plan.Resolution
import Mathlib.Data.List.Basic

set_option autoImplicit false

/-! What is held while rows are taken in: at each level the instance of the row from which on the
rows have been alike at this level, with everything attached to it that has been folded since. -/

namespace EntityMapper

namespace Slices

/-- Both rows have the same instance at a level, or none. -/
def Alike (index : Nat) (left right : Slices) : Prop :=
  (left.at? index = none ∧ right.at? index = none) ∨ Agree index left right

variable {index : Nat} {left middle right : Slices}

theorem agree_iff : Agree index left right ↔ ∃ first second, left.at? index = some first ∧
    right.at? index = some second ∧ first.isSame second = true := by
  constructor
  · rintro ⟨first, found, has⟩
    obtain ⟨second, there, same⟩ := has_iff.1 has
    exact ⟨first, second, found, there, same⟩
  · rintro ⟨first, second, found, there, same⟩
    exact ⟨first, found, has_iff.2 ⟨second, there, same⟩⟩

theorem Alike.symm (cleanLeft : left.Clean) (cleanRight : right.Clean)
    (alike : Alike index left right) : Alike index right left := by
  rcases alike with ⟨absent, missing⟩ | agree
  · exact Or.inl ⟨missing, absent⟩
  · obtain ⟨first, second, found, there, same⟩ := agree_iff.1 agree
    rw [(cleanLeft.read index first found).isSame_comm (cleanRight.read index second there)] at same
    exact Or.inr (agree_iff.2 ⟨second, first, there, found, same⟩)

theorem Alike.trans (cleanLeft : left.Clean) (cleanMiddle : middle.Clean)
    (cleanRight : right.Clean) (alike : Alike index left middle)
    (other : Alike index middle right) : Alike index left right := by
  rcases alike with ⟨absent, missing⟩ | agree
  · rcases other with ⟨_, lacking⟩ | agree
    · exact Or.inl ⟨absent, lacking⟩
    · obtain ⟨entity, found, -⟩ := agree
      cases missing.symm.trans found
  · obtain ⟨first, second, found, there, same⟩ := agree_iff.1 agree
    rcases other with ⟨missing, _⟩ | agree
    · cases missing.symm.trans there
    · obtain ⟨again, third, equal, seen, alike⟩ := agree_iff.1 agree
      cases there.symm.trans equal
      have together := (cleanLeft.read index first found).isSame_trans
        (cleanMiddle.read index second there) (cleanRight.read index third seen) same alike
      exact Or.inr (agree_iff.2 ⟨first, third, found, seen, together⟩)

theorem Alike.agree {entity : Entity} (alike : Alike index left right)
    (found : left.at? index = some entity) : Agree index left right := by
  rcases alike with ⟨absent, _⟩ | agree
  · cases absent.symm.trans found
  · exact agree

theorem at?_eq_none_of_alike (alike : Alike index left right) (absent : left.at? index = none) :
    right.at? index = none := by
  rcases alike with ⟨_, missing⟩ | ⟨entity, found, -⟩
  · exact missing
  · cases absent.symm.trans found

/-- The rows from one position up to another one. -/
def stretch (rows : List Slices) (start stop : Nat) : List Slices := (rows.take stop).drop start

theorem stretch_append_drop (rows : List Slices) {start stop : Nat} (ordered : start ≤ stop) :
    stretch rows start stop ++ rows.drop stop = rows.drop start := by
  by_cases inside : stop ≤ rows.length
  · have whole := List.take_append_drop stop rows
    conv => rhs; rw [← whole]
    rw [List.drop_append_of_le_length (by rw [List.length_take]; omega)]
    rfl
  · have beyond : rows.length ≤ stop := by omega
    rw [stretch, List.take_of_length_le beyond, List.drop_eq_nil_of_le beyond, List.append_nil]

/-- Later rows do not change a stretch before them. -/
theorem stretch_append (rows others : List Slices) (start : Nat) {stop : Nat}
    (inside : stop ≤ rows.length) :
    stretch (rows ++ others) start stop = stretch rows start stop := by
  rw [stretch, stretch, List.take_append_of_le_length inside]

theorem stretch_self (rows : List Slices) (start : Nat) : stretch rows start start = [] := by
  apply List.drop_eq_nil_of_le
  rw [List.length_take]
  omega

end Slices

namespace Plan

open Entity Slices

variable {plan : Plan}

theorem Above.le {ancestor index : Nat} (above : plan.Above ancestor index) : ancestor ≤ index := by
  induction above with
  | self => exact Nat.le_refl _
  | child above member ih =>
      have bounds := child_bounds member
      omega

/-- Positions of rows from which on all rows are alike at a level. -/
structure Spans (plan : Plan) (rows : List Slices) (start : Nat → Nat) : Prop where
  clean : ∀ row ∈ rows, row.Clean
  rooted : ∀ row ∈ rows, hasRoot row = true
  root : start 0 = 0
  monotone : ∀ index other, index ≤ other → start index ≤ start other
  inside : ∀ index, start index < rows.length
  alike : ∀ (index position : Nat) (first later : Slices), start index ≤ position →
    rows[start index]? = some first → rows[position]? = some later → Alike index first later

theorem Spans.exists_row {rows : List Slices} {start : Nat → Nat} (spans : plan.Spans rows start)
    (index : Nat) : ∃ row, rows[start index]? = some row ∧ row ∈ rows :=
  ⟨_, List.getElem?_eq_getElem (spans.inside index), List.getElem_mem _⟩

/-- Where everything above an instance is there, its rows agree on the way to it. -/
theorem Spans.together {rows : List Slices} {start : Nat → Nat} (spans : plan.Spans rows start)
    (single : plan.OnePerPath rows) {index : Nat} {first : Slices}
    (here : rows[start index]? = some first) (reached : plan.SamePath index first first) :
    plan.Together index (rows.drop (start index)) := by
  have member {row : Slices} (there : row ∈ rows.drop (start index)) : row ∈ rows :=
    List.mem_of_mem_drop there
  refine ⟨fun row there => spans.clean row (member there), ?_,
    single.of_subset fun row there => member there⟩
  intro left inLeft right inRight ancestor above
  have ordered := spans.monotone ancestor index above.le
  obtain ⟨top, topHere, topIn⟩ := spans.exists_row ancestor
  have firstIn : first ∈ rows := List.mem_of_getElem? here
  have toFirst := spans.alike ancestor (start index) top first ordered topHere here
  -- Every row from the start on is alike to the first one, on which everything above is there.
  have fromFirst {row : Slices} (there : row ∈ rows.drop (start index)) :
      Alike ancestor first row := by
    obtain ⟨position, found⟩ := List.getElem?_of_mem there
    rw [List.getElem?_drop] at found
    have toRow := spans.alike ancestor (start index + position) top row (by omega) topHere found
    exact (toFirst.symm (spans.clean top topIn) (spans.clean first firstIn)).trans
      (spans.clean first firstIn) (spans.clean top topIn) (spans.clean row (member there)) toRow
  obtain ⟨entity, present, -⟩ := reached ancestor above
  obtain ⟨_, second, found, there, _⟩ := agree_iff.1 ((fromFirst inLeft).agree present)
  have both := ((fromFirst inLeft).symm (spans.clean first firstIn)
    (spans.clean left (member inLeft))).trans (spans.clean left (member inLeft))
    (spans.clean first firstIn) (spans.clean right (member inRight)) (fromFirst inRight)
  exact both.agree there

/-- What is attached for each level below does not matter beyond what it stands for. -/
theorem owner_congr {index : Nat} {entity : Entity} {rows others : Nat → List Slices}
    (same : ∀ child association, (child, association) ∈ plan.children index →
      plan.attached child association (rows child) =
        plan.attached child association (others child)) :
    plan.owner index entity rows = plan.owner index entity others := by
  have relations : ((plan.children index).filterMap fun below =>
      (plan.attached below.1 below.2 (rows below.1)).map (below.2.name, ·)) =
      (plan.children index).filterMap fun below =>
        (plan.attached below.1 below.2 (others below.1)).map (below.2.name, ·) := by
    apply List.filterMap_congr
    intro below member
    rw [same below.1 below.2 member]
  rw [owner, owner, relations]

/-- An instance that has changed under one name only, to what more rows stand for there. -/
theorem eq_owner_of_sameBut (distinct : plan.DistinctNames) {index child : Nat}
    {association : Association} (member : (child, association) ∈ plan.children index)
    {entity found : Entity} {rows others : Nat → List Slices}
    (change : SameBut association.name (plan.owner index entity rows) found)
    (added : found.related? association.name = plan.attached child association (others child))
    (kept : ∀ other, other ≠ child → others other = rows other) :
    found = plan.owner index entity others := by
  apply eq_owner distinct (change.bare.trans (bare_owner _ _ _))
    (change.sorted (sorted_owner _ _ _))
  · intro other another listed
    by_cases here : another.name = association.name
    · cases distinct.eq_of_name listed member here
      exact added
    · have different : other ≠ child := by
        rintro rfl
        obtain ⟨level, origin, placed, found, -, -, rfl⟩ := mem_children.1 listed
        obtain ⟨_, _, placed', found', -, -, rfl⟩ := mem_children.1 member
        rw [placed] at placed'
        cases placed'
        rw [found] at found'
        cases found'
        exact here rfl
      rw [change.others _ here, related?_owner distinct listed, kept other different]
  · intro name absent
    have different : name ≠ association.name := Ne.symm (absent _ member)
    rw [change.others _ different, related?_owner_of_absent absent]

/-- One instance, as it is attached by the association that leads to it. -/
def attachedAlone (association : Association) (child : Entity) : Related :=
  match association.cardinality with
  | .one => .one child
  | .many => .many [child]

/-- Rows that all agree on an instance stand for it alone. -/
theorem attached_of_agreeing {child : Nat} (association : Association) {first : Slices}
    {rest : List Slices} {entity : Entity} (found : first.at? child = some entity)
    (read : entity.Read) (agree : ∀ row ∈ rest, row.has child entity = true) :
    plan.attached child association (first :: rest) =
      some (attachedAlone association (plan.node child entity (first :: rest))) := by
  have here : first.has child entity = true := has_iff.2 ⟨entity, found, read.isSame_self⟩
  have whole : agreeing child entity (first :: rest) = first :: rest :=
    List.filter_eq_self.2 (List.forall_mem_cons.2 ⟨here, agree⟩)
  cases cardinality : association.cardinality with
  | many =>
      rw [attached_many _ cardinality, classes_of_agreeing found read agree, attachedAlone,
        cardinality]
      rfl
  | one =>
      have listed : present child (first :: rest) = entity :: present child rest := by
        simp [present, found]
      rw [attached_one _ cardinality, listed, List.head?_cons, Option.map_some, whole,
        attachedAlone, cardinality]

/-- Rows without an instance at a level add nothing to what is attached. -/
theorem joined?_attached_of_absent {child : Nat} (association : Association)
    (first : List Slices) {second : List Slices} (absent : ∀ row ∈ second, row.at? child = none) :
    joined? (plan.attached child association first) (plan.attached child association second) =
      plan.attached child association first := by
  have nothing := present_of_absent absent
  cases cardinality : association.cardinality with
  | many =>
      have none : classes child second = [] := by
        rw [classes, nothing]
        rfl
      rw [attached_many _ cardinality, attached_many _ cardinality, none]
      rfl
  | one =>
      rw [attached_one second cardinality, nothing]
      rfl

/-- Attaching an instance of a level to its owner. -/
theorem sameBut_attachAt (level : Level) (origin : Origin) (child owner : Entity) :
    SameBut origin.association.name owner (Assembly.attachAt level origin child owner) := by
  rw [Assembly.attachAt]
  split
  · rw [attachOne_eq]
    exact sameBut_put _ _ _
  · rw [attachMany_eq]
    exact sameBut_put _ _ _

theorem related?_attachAt {level : Level} {origin : Origin}
    (attachedBy : level.origin = some origin) (child : Entity) (rows : List Slices)
    {owner : Entity} {index : Nat}
    (before : owner.related? origin.association.name =
      plan.attached index origin.association rows) :
    (Assembly.attachAt level origin child owner).related? origin.association.name =
      joined? (plan.attached index origin.association rows)
        (some (attachedAlone origin.association child)) := by
  have same : level.cardinality = origin.association.cardinality := by
    rw [Level.cardinality, attachedBy]
    rfl
  rw [Assembly.attachAt, same, attachedAlone]
  cases cardinality : origin.association.cardinality with
  | one => rw [attachOne_eq, related?_put_self, before]; rfl
  | many => rw [attachMany_eq, related?_put_self, before, attached_many _ cardinality]; rfl

/-- The rows of an instance that have been attached to it, by the level below. -/
def attachedRows (rows : List Slices) (start : Nat → Nat) (depth index : Nat) :
    Nat → List Slices :=
  fun below =>
    if below < depth then stretch rows (start index) (start below) else rows.drop (start index)

/-- What is held at a level, by the first one of its rows. -/
structure HoldsAt (plan : Plan) (rows : List Slices) (start : Nat → Nat) (depth index : Nat)
    (first : Slices) (slot : Option Entity) : Prop where
  absent : first.at? index = none → slot = none
  present : ∀ entity, first.at? index = some entity → ∃ held, slot = some held ∧
    held.bare = entity.bare ∧ (plan.SamePath index first first →
      held = plan.owner index entity (attachedRows rows start depth index))

/-- What is held when the levels from a depth on have been folded. -/
structure Holds (plan : Plan) (rows : List Slices) (start : Nat → Nat) (depth : Nat)
    (held : Slices) : Prop where
  length : held.length = plan.levels.length
  folded : ∀ index, depth ≤ index → index < plan.levels.length → held[index]? = some none
  slots : ∀ index first, index < depth → index < plan.levels.length →
    rows[start index]? = some first →
      ∃ slot, held[index]? = some slot ∧ plan.HoldsAt rows start depth index first slot

end Plan

end EntityMapper
