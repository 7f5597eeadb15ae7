import EntityMapper.Proofs.Entity.Attachment
import EntityMapper.Proofs.Plan.Classes
import Mathlib.Data.List.Pairwise

set_option autoImplicit false

/-! What two lists of rows of one instance stand for is merged to what all rows together stand
for. -/

namespace EntityMapper

namespace Plan

open Entity Slices

variable {plan : Plan}

/-- The instance of a level to which the rows of each level below it have been attached. -/
def owner (plan : Plan) (index : Nat) (entity : Entity) (rows : Nat → List Slices) : Entity :=
  entity.withRelations
    (Keyed.ofList ((plan.children index).filterMap fun below =>
      (plan.attached below.1 below.2 (rows below.1)).map (below.2.name, ·))).entries

theorem node_eq_owner (plan : Plan) (index : Nat) (entity : Entity) (rows : List Slices) :
    plan.node index entity rows = plan.owner index entity fun _ => rows := by
  have whole := (plan.children index).attach_map_subtype_val
  rw [node, owner]
  congr 3
  conv => rhs; rw [← whole, List.filterMap_map]
  rfl

@[simp] theorem bare_owner (index : Nat) (entity : Entity) (rows : Nat → List Slices) :
    (plan.owner index entity rows).bare = entity.bare := bare_withRelations _ _

@[simp] theorem bare_node (index : Nat) (entity : Entity) (rows : List Slices) :
    (plan.node index entity rows).bare = entity.bare := by
  rw [node_eq_owner, bare_owner]

/-- Names tell the levels below an instance apart. -/
theorem DistinctNames.eq_of_name (distinct : plan.DistinctNames) {index : Nat}
    {left right : Nat × Association} (first : left ∈ plan.children index)
    (second : right ∈ plan.children index) (same : left.2.name = right.2.name) :
    left = right := by
  have symmetric : Std.Symm fun left right : Nat × Association => left.2.name ≠ right.2.name :=
    ⟨fun _ _ => Ne.symm⟩
  by_contra different
  exact (distinct index).forall first second different same

theorem sorted_owner (index : Nat) (entity : Entity) (rows : Nat → List Slices) :
    Entries.Sorted (plan.owner index entity rows).relations := by
  rw [owner, relations_withRelations]
  exact Keyed.sorted _

private theorem apart_relations (distinct : plan.DistinctNames) (index : Nat)
    (rows : Nat → List Slices) :
    ((plan.children index).filterMap fun below =>
      (plan.attached below.1 below.2 (rows below.1)).map (below.2.name, ·)).Pairwise
        fun left right => left.1 ≠ right.1 := by
  apply (distinct index).filterMap
  intro left right different first found second other
  obtain ⟨_, -, rfl⟩ := Option.map_eq_some_iff.1 found
  obtain ⟨_, -, rfl⟩ := Option.map_eq_some_iff.1 other
  exact different

/-- Under the name of an association there is what its rows stand for. -/
theorem related?_owner (distinct : plan.DistinctNames) {index child : Nat}
    {association : Association} (member : (child, association) ∈ plan.children index)
    (entity : Entity) (rows : Nat → List Slices) :
    (plan.owner index entity rows).related? association.name =
      plan.attached child association (rows child) := by
  rw [related?, owner, relations_withRelations]
  cases found : plan.attached child association (rows child) with
  | some related =>
      apply Keyed.get?_ofList_of_mem (apart_relations distinct index rows)
      apply List.mem_filterMap.2
      exact ⟨(child, association), member, by rw [found, Option.map_some]⟩
  | none =>
      apply Keyed.get?_ofList_of_absent
      intro entry listed same
      obtain ⟨below, other, shown⟩ := List.mem_filterMap.1 listed
      obtain ⟨related, there, rfl⟩ := Option.map_eq_some_iff.1 shown
      rw [distinct.eq_of_name other member same, found] at there
      cases there

theorem related?_owner_of_absent {index : Nat} {name : String}
    (absent : ∀ below ∈ plan.children index, below.2.name ≠ name) (entity : Entity)
    (rows : Nat → List Slices) : (plan.owner index entity rows).related? name = none := by
  rw [related?, owner, relations_withRelations]
  apply Keyed.get?_ofList_of_absent
  intro entry listed
  obtain ⟨below, member, shown⟩ := List.mem_filterMap.1 listed
  obtain ⟨related, -, rfl⟩ := Option.map_eq_some_iff.1 shown
  exact absent below member

theorem related?_node (distinct : plan.DistinctNames) {index child : Nat}
    {association : Association} (member : (child, association) ∈ plan.children index)
    (entity : Entity) (rows : List Slices) :
    (plan.node index entity rows).related? association.name =
      plan.attached child association rows := by
  rw [node_eq_owner, related?_owner distinct member]

/-- An instance is known by its values and by what is attached under each name. -/
theorem eq_owner (distinct : plan.DistinctNames) {index : Nat} {entity found : Entity}
    {rows : Nat → List Slices} (bare : found.bare = entity.bare)
    (sorted : Entries.Sorted found.relations)
    (below : ∀ child association, (child, association) ∈ plan.children index →
      found.related? association.name = plan.attached child association (rows child))
    (nothing : ∀ name, (∀ below ∈ plan.children index, below.2.name ≠ name) →
      found.related? name = none) : found = plan.owner index entity rows := by
  apply ext_of_bare (bare.trans (bare_owner index entity rows).symm)
  apply Entries.ext_of_sorted sorted (sorted_owner index entity rows)
  intro name
  by_cases named : ∃ child association,
      (child, association) ∈ plan.children index ∧ association.name = name
  · obtain ⟨child, association, member, rfl⟩ := named
    exact (below child association member).trans (related?_owner distinct member entity rows).symm
  · have absent : ∀ below ∈ plan.children index, below.2.name ≠ name := by
      intro below member same
      exact named ⟨below.1, below.2, member, same⟩
    exact (nothing name absent).trans (related?_owner_of_absent absent entity rows).symm

/-- Rows that agree on everything from the roots to a level. -/
structure Together (plan : Plan) (index : Nat) (rows : List Slices) : Prop where
  clean : ∀ row ∈ rows, row.Clean
  paths : ∀ left ∈ rows, ∀ right ∈ rows, plan.SamePath index left right
  single : plan.OnePerPath rows

theorem OnePerPath.of_subset {rows others : List Slices} (single : plan.OnePerPath rows)
    (subset : ∀ row ∈ others, row ∈ rows) : plan.OnePerPath others := by
  intro index child association member one left inLeft right inRight
  exact single index child association member one left (subset left inLeft) right
    (subset right inRight)

/-- A level has one parent. -/
theorem parent_unique {index other child : Nat} {association another : Association}
    (member : (child, association) ∈ plan.children index)
    (again : (child, another) ∈ plan.children other) : other = index := by
  obtain ⟨level, origin, placed, found, rfl, -, -⟩ := mem_children.1 member
  obtain ⟨_, _, placed', found', rfl, -, -⟩ := mem_children.1 again
  rw [placed] at placed'
  cases placed'
  rw [found] at found'
  cases found'
  rfl

/-- Those of the rows that agree on one instance of a level below agree on everything down to
it. -/
theorem Together.child {index child : Nat} {association : Association} {rows others : List Slices}
    {entity : Entity} (together : plan.Together index rows)
    (member : (child, association) ∈ plan.children index) (read : entity.Read)
    (subset : ∀ row ∈ others, row ∈ rows) (agree : ∀ row ∈ others, row.has child entity = true) :
    plan.Together child others := by
  refine ⟨fun row there => together.clean row (subset row there), ?_,
    together.single.of_subset subset⟩
  intro left inLeft right inRight ancestor above
  cases above with
  | self =>
      obtain ⟨first, foundLeft, sameLeft⟩ := has_iff.1 (agree left inLeft)
      obtain ⟨second, foundRight, sameRight⟩ := has_iff.1 (agree right inRight)
      have readFirst := (together.clean left (subset left inLeft)).read child first foundLeft
      have readSecond := (together.clean right (subset right inRight)).read child second foundRight
      rw [read.isSame_comm readFirst] at sameLeft
      exact ⟨first, foundLeft, has_iff.2
        ⟨second, foundRight, readFirst.isSame_trans read readSecond sameLeft sameRight⟩⟩
  | child above again =>
      rw [parent_unique member again] at above
      exact together.paths left (subset left inLeft) right (subset right inRight) ancestor above

/-- What a class of rows stands for. -/
def classNode (plan : Plan) (index : Nat) (each : RowClass) : Entity :=
  plan.node index each.1 each.2

theorem attached_many {child : Nat} {association : Association} (rows : List Slices)
    (many : association.cardinality = .many) :
    plan.attached child association rows =
      some (.many ((classes child rows).map (plan.classNode child))) := by
  rw [attached, many, classes, List.map_map]
  rfl

theorem attached_one {child : Nat} {association : Association} (rows : List Slices)
    (one : association.cardinality = .one) :
    plan.attached child association rows = (present child rows).head?.map fun entity =>
      .one (plan.node child entity (agreeing child entity rows)) := by
  rw [attached, one]

/-- A class of some of the rows. -/
structure ClassOf (index : Nat) (rows : List Slices) (each : RowClass) : Prop where
  read : each.1.Read
  subset : ∀ row ∈ each.2, row ∈ rows
  agree : ∀ row ∈ each.2, row.has index each.1 = true

theorem classOf_classes {index : Nat} {rows : List Slices} (clean : ∀ row ∈ rows, row.Clean) :
    ∀ each ∈ classes index rows, ClassOf index rows each := by
  intro each member
  obtain ⟨entity, found, rfl⟩ := List.mem_map.1 member
  refine ⟨read_of_mem_present clean (mem_of_mem_distinct found), ?_, ?_⟩
  · exact fun row there => (List.mem_filter.1 there).1
  · exact fun row there => (List.mem_filter.1 there).2

theorem has_of_isSame {index : Nat} {row : Slices} {entity other : Entity} (clean : row.Clean)
    (read : entity.Read) (readOther : other.Read) (same : entity.isSame other = true)
    (has : row.has index other = true) : row.has index entity = true := by
  obtain ⟨found, there, alike⟩ := has_iff.1 has
  exact has_iff.2 ⟨found, there,
    read.isSame_trans readOther (clean.read index found there) same alike⟩

theorem agreeing_congr {index : Nat} {rows : List Slices} {entity other : Entity}
    (clean : ∀ row ∈ rows, row.Clean) (read : entity.Read) (readOther : other.Read)
    (same : entity.isSame other = true) :
    agreeing index entity rows = agreeing index other rows := by
  apply List.filter_congr
  intro row there
  have cleanRow := clean row there
  rw [Bool.eq_iff_iff]
  constructor
  · rw [read.isSame_comm readOther] at same
    exact has_of_isSame cleanRow readOther read same
  · exact has_of_isSame cleanRow read readOther same

theorem agreeing_of_absent {index : Nat} {rows : List Slices} (entity : Entity)
    (absent : present index rows = []) : agreeing index entity rows = [] := by
  apply List.filter_eq_nil_iff.2
  intro row there has
  obtain ⟨other, found, -⟩ := has_iff.1 has
  have listed : other ∈ present index rows := List.mem_filterMap.2 ⟨row, there, found⟩
  rw [absent] at listed
  exact absurd listed List.not_mem_nil

section Merge

variable {index child : Nat} {association : Association} {rows : List Slices}

/-- A class takes over the rows of its double. -/
theorem ClassOf.merge {first second : RowClass} (clean : ∀ row ∈ rows, row.Clean)
    (left : ClassOf index rows first) (right : ClassOf index rows second)
    (same : first.1.isSame second.1 = true) :
    ClassOf index rows (first.1, first.2 ++ second.2) := by
  refine ⟨left.read, List.forall_mem_append.2 ⟨left.subset, right.subset⟩,
    List.forall_mem_append.2 ⟨left.agree, ?_⟩⟩
  intro row there
  exact has_of_isSame (clean row (right.subset row there)) left.read right.read same
    (right.agree row there)

theorem classOf_addClass {before : List RowClass} {added : RowClass}
    (clean : ∀ row ∈ rows, row.Clean) (each : ∀ each ∈ before, ClassOf index rows each)
    (other : ClassOf index rows added) :
    ∀ each ∈ addClass before added, ClassOf index rows each := by
  induction before with
  | nil => exact List.forall_mem_singleton.2 other
  | cons head rest ih =>
      have here := each head List.mem_cons_self
      have others := fun each' member => each each' (List.mem_cons_of_mem head member)
      rw [addClass]
      split
      · rename_i same
        exact List.forall_mem_cons.2 ⟨here.merge clean other same, others⟩
      · exact List.forall_mem_cons.2 ⟨here, ih others⟩

/-- Two lists of rows of one instance of the level are merged to what all rows stand for. -/
def Merges (plan : Plan) (index : Nat) : Prop :=
  ∀ (entity other : Entity) (first second : List Slices), plan.Together index (first ++ second) →
    (plan.node index entity first).merge (plan.node index other second) =
      plan.node index entity (first ++ second)

theorem withItem_classNode (merges : plan.Merges child) (together : plan.Together index rows)
    (member : (child, association) ∈ plan.children index) {before : List RowClass}
    {added : RowClass} (each : ∀ each ∈ before, ClassOf child rows each)
    (other : ClassOf child rows added) :
    withItem (before.map (plan.classNode child)) (plan.classNode child added) =
      (addClass before added).map (plan.classNode child) := by
  induction before with
  | nil => rfl
  | cons head rest ih =>
      have here := each head List.mem_cons_self
      have others := ih fun each' there => each each' (List.mem_cons_of_mem head there)
      have alike : (plan.classNode child head).isSame (plan.classNode child added) =
          head.1.isSame added.1 := isSame_congr (bare_node _ _ _) (bare_node _ _ _)
      rw [List.map_cons, addClass, withItem, updateFirst, alike]
      split
      · rename_i same
        have both := here.merge together.clean other same
        have merged := merges head.1 added.1 head.2 added.2
          (together.child member both.read both.subset both.agree)
        rw [List.map_cons, classNode, classNode, merged]
        rfl
      · rw [List.map_cons, ← others]
        rfl

theorem joined_classNode (merges : plan.Merges child) (together : plan.Together index rows)
    (member : (child, association) ∈ plan.children index) {before added : List RowClass}
    (each : ∀ each ∈ before, ClassOf child rows each)
    (others : ∀ each ∈ added, ClassOf child rows each) :
    joined (some (.many (before.map (plan.classNode child))))
        (.many (added.map (plan.classNode child))) =
      .many ((added.foldl addClass before).map (plan.classNode child)) := by
  rw [joined, Option.getD_some]
  induction added generalizing before with
  | nil => rfl
  | cons first rest ih =>
      have here := others first List.mem_cons_self
      rw [List.map_cons, List.foldl_cons, List.foldl_cons, collection,
        withItem_classNode merges together member each here]
      exact ih (classOf_addClass together.clean each here) fun each' there =>
        others each' (List.mem_cons_of_mem first there)

theorem joined?_attached_many (merges : plan.Merges child) {first second : List Slices}
    (together : plan.Together index (first ++ second))
    (member : (child, association) ∈ plan.children index)
    (many : association.cardinality = .many) :
    joined? (plan.attached child association first) (plan.attached child association second) =
      plan.attached child association (first ++ second) := by
  have cleanFirst : ∀ row ∈ first, row.Clean := fun row there =>
    together.clean row (List.mem_append_left _ there)
  have cleanSecond : ∀ row ∈ second, row.Clean := fun row there =>
    together.clean row (List.mem_append_right _ there)
  have each : ∀ each ∈ classes child first, ClassOf child (first ++ second) each := by
    intro each there
    have found := classOf_classes cleanFirst each there
    exact ⟨found.read, fun row inside => List.mem_append_left _ (found.subset row inside),
      found.agree⟩
  have others : ∀ each ∈ classes child second, ClassOf child (first ++ second) each := by
    intro each there
    have found := classOf_classes cleanSecond each there
    exact ⟨found.read, fun row inside => List.mem_append_right _ (found.subset row inside),
      found.agree⟩
  rw [attached_many _ many, attached_many _ many, attached_many _ many, joined?,
    joined_classNode merges together member each others, classes_append cleanFirst cleanSecond]

/-- Where two parts of the rows have an instance of the one target, it is the same, and what stands
for it is merged. -/
theorem single_node_of_present (merges : plan.Merges child) {first second : List Slices}
    (together : plan.Together index (first ++ second))
    (member : (child, association) ∈ plan.children index)
    (one : association.cardinality = .one) {entity other : Entity}
    (inFirst : entity ∈ present child first) (inSecond : other ∈ present child second) :
    single (some (.one (plan.node child entity (agreeing child entity first))))
        (plan.node child other (agreeing child other second)) =
      plan.node child entity (agreeing child entity first ++ agreeing child entity second) := by
  have cleanSecond : ∀ row ∈ second, row.Clean := fun row there =>
    together.clean row (List.mem_append_right _ there)
  have read := read_of_mem_present
    (fun row there => together.clean row (List.mem_append_left _ there)) inFirst
  have readOther := read_of_mem_present cleanSecond inSecond
  obtain ⟨row, rowThere, rowHas⟩ := List.mem_filterMap.1 inFirst
  obtain ⟨last, lastThere, lastHas⟩ := List.mem_filterMap.1 inSecond
  have rowIn : row ∈ first ++ second := List.mem_append_left _ rowThere
  have lastIn : last ∈ first ++ second := List.mem_append_right _ lastThere
  have same := together.single index child association member one row rowIn last lastIn
    (together.paths row rowIn last lastIn) entity other rowHas lastHas
  have alike : (plan.node child entity (agreeing child entity first)).isSame
      (plan.node child other (agreeing child other second)) = true := by
    rw [isSame_congr (bare_node _ _ _) (bare_node _ _ _), same]
  have inside : plan.Together child
      (agreeing child entity first ++ agreeing child entity second) := by
    rw [← agreeing_append]
    exact together.child member read (fun row there => (List.mem_filter.1 there).1)
      fun row there => (List.mem_filter.1 there).2
  rw [single, if_pos alike, ← agreeing_congr cleanSecond read readOther same,
    merges entity other _ _ inside]

/-- What is attached for the rows of one owner in two parts. -/
theorem joined?_attached (merges : plan.Merges child) {first second : List Slices}
    (together : plan.Together index (first ++ second))
    (member : (child, association) ∈ plan.children index) :
    joined? (plan.attached child association first) (plan.attached child association second) =
      plan.attached child association (first ++ second) := by
  cases cardinality : association.cardinality with
  | many => exact joined?_attached_many merges together member cardinality
  | one =>
      rw [attached_one _ cardinality, attached_one _ cardinality, attached_one _ cardinality,
        present_append]
      cases left : present child first with
      | nil =>
          -- Only the later rows have an instance.
          rw [List.nil_append, List.head?_nil, Option.map_none]
          cases present child second with
          | nil => rfl
          | cons entity rest =>
              rw [List.head?_cons, Option.map_some, Option.map_some, agreeing_append,
                agreeing_of_absent entity left, List.nil_append]
              rfl
      | cons entity others =>
          rw [List.cons_append, List.head?_cons, List.head?_cons, Option.map_some,
            Option.map_some, agreeing_append]
          cases right : present child second with
          | nil =>
              rw [List.head?_nil, Option.map_none, joined?, agreeing_of_absent entity right,
                List.append_nil]
          | cons other rest =>
              have inFirst : entity ∈ present child first := left ▸ List.mem_cons_self
              have inSecond : other ∈ present child second := right ▸ List.mem_cons_self
              rw [List.head?_cons, Option.map_some, joined?, joined,
                single_node_of_present merges together member cardinality inFirst inSecond]

end Merge

/-- Instances of a level are merged by merging what is attached to them. -/
theorem merges (distinct : plan.DistinctNames) (index : Nat) : plan.Merges index := by
  intro entity other first second together
  rw [node_eq_owner plan index entity (first ++ second)]
  apply eq_owner distinct
  · rw [merge, bare_mergeRelations, bare_node]
  · rw [merge, node_eq_owner]
    exact sorted_mergeRelations (sorted_owner _ _ _)
  · intro child association member
    have below := merges distinct child
    rw [merge, related?_mergeRelations (by rw [node_eq_owner]; exact sorted_owner _ _ _),
      ← related?, node_eq_owner, node_eq_owner, related?_owner distinct member,
      related?_owner distinct member, joined?_attached below together member]
  · intro name absent
    rw [merge, related?_mergeRelations (by rw [node_eq_owner]; exact sorted_owner _ _ _),
      ← related?, node_eq_owner, node_eq_owner, related?_owner_of_absent absent,
      related?_owner_of_absent absent]
    rfl
termination_by plan.levels.length - index
decreasing_by
  have bounds := child_bounds member
  omega

end Plan

end EntityMapper
