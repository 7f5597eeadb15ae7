import EntityMapper.Proofs.Entity.Hydration
import EntityMapper.Proofs.Plan.Choices
import Mathlib.Tactic.Choose

set_option autoImplicit false

/-! Rows that show all choices of linked rows below an instance stand for the instance with exactly
what is linked to it. -/

namespace EntityMapper

open Entity Slices Store

namespace Plan

/-- A plan for a registry, with tables as they are required. -/
structure Grounded (store : Store) (registry : Registry) (plan : Plan) : Prop where
  sound : store.Sound registry
  free : store.NanFree registry
  regular : registry.Regular
  declared : plan.Declared registry
  names : plan.DistinctNames

/-- The instances of a row are made of what is chosen. -/
def Shows (plan : Plan) (choice : Nat → Record) (row : Slices) : Prop :=
  ∀ index level, plan.levels[index]? = some level →
    ∃ entity, row.at? index = some entity ∧ entity.MadeOf level.schema (choice index) ∧
      entity.relations = []

/-- The rows show all choices that agree with one on the way from the roots to a level. -/
structure Gathers (store : Store) (registry : Registry) (plan : Plan) (base : Nat → Record)
    (index : Nat) (rows : List Slices) : Prop where
  sound : ∀ row ∈ rows, ∃ choice, plan.Fits store registry choice ∧ plan.Shows choice row ∧
    ∀ ancestor, plan.Above ancestor index → choice ancestor = base ancestor
  complete : ∀ choice, plan.Fits store registry choice →
    (∀ ancestor, plan.Above ancestor index → choice ancestor = base ancestor) →
      ∃ row ∈ rows, plan.Shows choice row

section Node

variable {store : Store} {registry : Registry} {plan : Plan} {index child : Nat}
  {association : Association} {owner target : Level} {base choice : Nat → Record}
  {rows : List Slices}

theorem isSame_iff (grounded : plan.Grounded store registry)
    (placed : plan.levels[index]? = some target) {left right : Entity} {first second : Record}
    (madeLeft : left.MadeOf target.schema first) (madeRight : right.MadeOf target.schema second)
    (storedLeft : first ∈ store.rows target.schema.table)
    (storedRight : second ∈ store.rows target.schema.table) :
    left.isSame right = true ↔ first = second := by
  obtain ⟨name, found⟩ := grounded.declared.found index target placed
  exact MadeOf.isSame_iff grounded.sound grounded.free grounded.regular found madeLeft madeRight
    storedLeft storedRight

theorem has_iff_of_shows (grounded : plan.Grounded store registry)
    (placed : plan.levels[index]? = some target) {entity : Entity} {record : Record}
    (made : entity.MadeOf target.schema record) (stored : record ∈ store.rows target.schema.table)
    {row : Slices} (fits : plan.Fits store registry choice) (shows : plan.Shows choice row) :
    row.has index entity = true ↔ choice index = record := by
  obtain ⟨other, found, madeOther, -⟩ := shows index target placed
  have storedOther := (fits index target placed).1
  rw [has_iff]
  constructor
  · rintro ⟨again, foundAgain, same⟩
    cases found.symm.trans foundAgain
    exact ((isSame_iff grounded placed made madeOther stored storedOther).1 same).symm
  · rintro rfl
    exact ⟨other, found, (isSame_iff grounded placed made madeOther stored storedOther).2 rfl⟩

/-- Where an association promises a single target, a row is linked to one at most. -/
theorem eq_of_linked (grounded : plan.Grounded store registry)
    (member : (child, association) ∈ plan.children index)
    (placedOwner : plan.levels[index]? = some owner) (placed : plan.levels[child]? = some target)
    (one : association.cardinality = .one) {source left right : Record}
    (stored : source ∈ store.rows owner.schema.table)
    (storedLeft : left ∈ store.rows target.schema.table)
    (storedRight : right ∈ store.rows target.schema.table)
    (linkedLeft : store.Linked registry owner.schema target.schema association.link source left)
    (linkedRight : store.Linked registry owner.schema target.schema association.link source right) :
    left = right := by
  obtain ⟨declared, found⟩ :=
    grounded.declared.association index child association owner target member placedOwner placed
  obtain ⟨name, foundOwner⟩ := grounded.declared.found index owner placedOwner
  cases kind : association.link with
  | belongsTo key =>
      rw [kind] at linkedLeft linkedRight
      obtain ⟨first, keyLeft⟩ := grounded.sound.keyed _ _ found left storedLeft
      obtain ⟨second, keyRight⟩ := grounded.sound.keyed _ _ found right storedRight
      simp only [Store.Linked, keyLeft, keyRight] at linkedLeft linkedRight
      apply grounded.sound.eq_of_key found storedLeft storedRight
      rw [keyLeft, keyRight, store.equal_int linkedLeft linkedRight]
  | hasOne key =>
      exact grounded.sound.single name owner.schema foundOwner association declared key kind
        target.schema found source stored left storedLeft right storedRight linkedLeft linkedRight
  | hasMany key =>
      rw [Association.cardinality, kind] at one
      cases one
  | belongsToMany through =>
      rw [Association.cardinality, kind] at one
      cases one

/-- Of rows that show all choices below an instance, those that agree on a child show all choices
below the child. -/
theorem Gathers.agreeing (grounded : plan.Grounded store registry)
    (gathers : plan.Gathers store registry base index rows)
    (member : (child, association) ∈ plan.children index)
    (placed : plan.levels[child]? = some target)
    (fits : plan.Fits store registry choice)
    (same : ∀ ancestor, plan.Above ancestor index → choice ancestor = base ancestor)
    {entity : Entity} (made : entity.MadeOf target.schema (choice child)) :
    plan.Gathers store registry choice child (Slices.agreeing child entity rows) := by
  have stored := (fits child target placed).1
  constructor
  · intro row there
    obtain ⟨listed, has⟩ := List.mem_filter.1 there
    obtain ⟨other, fitsOther, shows, sameOther⟩ := gathers.sound row listed
    refine ⟨other, fitsOther, shows, ?_⟩
    intro ancestor above
    by_cases here : child = ancestor
    · subst here
      exact (has_iff_of_shows grounded placed made stored fitsOther shows).1 has
    · have aboveOwner := above.parent member here
      rw [sameOther ancestor aboveOwner, same ancestor aboveOwner]
  · intro other fitsOther sameOther
    obtain ⟨row, listed, shows⟩ := gathers.complete other fitsOther fun ancestor above => by
      rw [sameOther ancestor (above.child member), same ancestor above]
    refine ⟨row, List.mem_filter.2 ⟨listed, ?_⟩, shows⟩
    exact (has_iff_of_shows grounded placed made stored fitsOther shows).2
      (sameOther child (Above.self child))

/-- A present instance is made of a choice that the rows show. -/
theorem Gathers.exists_choice (gathers : plan.Gathers store registry base index rows)
    (placed : plan.levels[child]? = some target) {entity : Entity}
    (member : entity ∈ present child rows) :
    ∃ choice, plan.Fits store registry choice ∧
      (∀ ancestor, plan.Above ancestor index → choice ancestor = base ancestor) ∧
      entity.MadeOf target.schema (choice child) := by
  obtain ⟨row, there, found⟩ := List.mem_filterMap.1 member
  obtain ⟨choice, fits, shows, same⟩ := gathers.sound row there
  obtain ⟨other, foundOther, made, -⟩ := shows child target placed
  cases found.symm.trans foundOther
  exact ⟨choice, fits, same, made⟩

theorem Gathers.exists_present (gathers : plan.Gathers store registry base index rows)
    (placed : plan.levels[child]? = some target) (fits : plan.Fits store registry choice)
    (same : ∀ ancestor, plan.Above ancestor index → choice ancestor = base ancestor) :
    ∃ entity ∈ present child rows, entity.MadeOf target.schema (choice child) := by
  obtain ⟨row, there, shows⟩ := gathers.complete choice fits same
  obtain ⟨entity, found, made, -⟩ := shows child target placed
  exact ⟨entity, List.mem_filterMap.2 ⟨row, there, found⟩, made⟩

/-- What is chosen for a child is linked to the owner and complete. -/
theorem Fits.linked_child {nested : List Branch} (fits : plan.Fits store registry choice)
    (member : (child, association) ∈ plan.children index)
    (placedOwner : plan.levels[index]? = some owner) (placed : plan.levels[child]? = some target)
    (bears : plan.BearsAll (plan.children child) nested) :
    choice child ∈ store.rows target.schema.table ∧
      store.Linked registry owner.schema target.schema association.link (choice index)
        (choice child) ∧
      store.Complete registry target.schema (choice child) nested := by
  obtain ⟨stored, linked⟩ := fits child target placed
  exact ⟨stored, linked index association owner member placedOwner,
    fits.complete placed (fun _ => id) bears⟩

/-- A complete row that is linked to the owner is chosen with the same owner. -/
theorem Fits.exists_child {nested : List Branch} (fits : plan.Fits store registry base)
    (member : (child, association) ∈ plan.children index)
    (placedOwner : plan.levels[index]? = some owner) (placed : plan.levels[child]? = some target)
    (bears : plan.BearsAll (plan.children child) nested) {record : Record}
    (stored : record ∈ store.rows target.schema.table)
    (linked : store.Linked registry owner.schema target.schema association.link (base index) record)
    (complete : store.Complete registry target.schema record nested) :
    ∃ choice, plan.Fits store registry choice ∧
      (∀ ancestor, plan.Above ancestor index → choice ancestor = base ancestor) ∧
      choice child = record := by
  obtain ⟨choice, fitsChoice, chosen, same⟩ :=
    fits.exists_graft member placedOwner placed bears stored linked complete
  refine ⟨choice, fitsChoice, ?_, chosen⟩
  intro ancestor above
  apply same
  intro below
  have bounds := child_bounds member
  have first := above.le
  have second := below.le
  omega

/-- With what belongs under its associations, what rows stand for is populated. -/
theorem populated_of_carriesAll (grounded : plan.Grounded store registry)
    (placed : plan.levels[index]? = some owner) (fits : plan.Fits store registry base)
    {branches : List Branch} (bears : plan.BearsAll (plan.children index) branches)
    {entity : Entity} (made : entity.MadeOf owner.schema (base index))
    (carries : store.CarriesAll registry owner.schema (base index) (plan.node index entity rows)
      branches) :
    store.Populated registry owner.schema (base index) branches (plan.node index entity rows) := by
  obtain ⟨name, found⟩ := grounded.declared.found index owner placed
  refine ⟨?_, ?_, carries⟩
  · rw [node_eq_owner]
    exact (made.withRelations _).isOf grounded.sound grounded.regular found
      (fits index owner placed).1
  · intro name unnamed
    rw [node_eq_owner]
    apply related?_owner_of_absent
    intro below member same
    obtain ⟨branch, there, bearsBelow⟩ := bears.exists_branch below member
    exact unnamed branch there (bearsBelow.association ▸ same)

section Carries

variable (grounded : plan.Grounded store registry)
  (gathers : plan.Gathers store registry base index rows) (fits : plan.Fits store registry base)
  (member : (child, association) ∈ plan.children index)
  (placedOwner : plan.levels[index]? = some owner) (placed : plan.levels[child]? = some target)
  {nested : List Branch} (bears : plan.BearsAll (plan.children child) nested)
  (populated : ∀ (choice : Nat → Record) (entity : Entity) (others : List Slices),
    plan.Fits store registry choice → entity.MadeOf target.schema (choice child) →
      plan.Gathers store registry choice child others →
        store.Populated registry target.schema (choice child) nested
          (plan.node child entity others))

include grounded gathers fits member placedOwner placed bears populated

theorem carries_many (many : association.cardinality = .many) (entity : Entity) :
    store.Carries registry owner.schema (base index) (plan.node index entity rows)
      (.mk association target.schema nested) := by
  have chosen : ∀ each ∈ distinct (present child rows), ∃ choice : Nat → Record,
      plan.Fits store registry choice ∧
        (∀ ancestor, plan.Above ancestor index → choice ancestor = base ancestor) ∧
        each.MadeOf target.schema (choice child) :=
    fun each there => gathers.exists_choice placed (mem_of_mem_distinct there)
  choose! choice facts using chosen
  have read : ∀ each ∈ present child rows, each.Read := by
    intro each there
    obtain ⟨choice, fitsChoice, -, made⟩ := gathers.exists_choice placed there
    obtain ⟨name, found⟩ := grounded.declared.found child target placed
    exact ⟨_, made.stored, nanFree_storedFields .storage _
      (grounded.free name target.schema found _ (fitsChoice child target placed).1)⟩
  refine ⟨(distinct (present child rows)).map fun each => choice each child,
    (distinct (present child rows)).map fun each =>
      plan.node child each (Slices.agreeing child each rows), ?_, ?_, ?_, ?_⟩
  · intro record
    constructor
    · intro listed
      obtain ⟨each, there, rfl⟩ := List.mem_map.1 listed
      obtain ⟨fitsEach, same, -⟩ := facts each there
      rw [← same index (Above.self index)]
      exact fitsEach.linked_child member placedOwner placed bears
    · rintro ⟨stored, linked, complete⟩
      obtain ⟨other, fitsOther, same, rfl⟩ :=
        fits.exists_child member placedOwner placed bears stored linked complete
      obtain ⟨shown, present, made⟩ := gathers.exists_present placed fitsOther same
      obtain ⟨each, there, equal⟩ := exists_mem_distinct read present
      obtain ⟨fitsEach, -, madeEach⟩ := facts each there
      refine List.mem_map.2 ⟨each, there, ?_⟩
      exact (isSame_iff grounded placed madeEach made (fitsEach child target placed).1 stored).1
        equal
  · rw [List.Nodup, List.pairwise_map]
    refine (pairwise_distinct (present child rows)).imp_of_mem ?_
    intro left right inLeft inRight different equal
    obtain ⟨fitsLeft, -, madeLeft⟩ := facts left inLeft
    obtain ⟨fitsRight, -, madeRight⟩ := facts right inRight
    have same := (isSame_iff grounded placed madeLeft madeRight (fitsLeft child target placed).1
      (fitsRight child target placed).1).2 equal
    rw [same] at different
    cases different
  · rw [List.forall₂_map_left_iff, List.forall₂_map_right_iff, List.forall₂_same]
    intro each there
    obtain ⟨fitsEach, same, made⟩ := facts each there
    exact populated (choice each) each _ fitsEach made
      (gathers.agreeing grounded member placed fitsEach same made)
  · rw [Entity.Holds, many]
    change (plan.node index entity rows).related? association.name = _
    rw [related?_node grounded.names member, attached, many]

theorem carries_one (one : association.cardinality = .one) (entity : Entity) :
    store.Carries registry owner.schema (base index) (plan.node index entity rows)
      (.mk association target.schema nested) := by
  obtain ⟨shown, there, -⟩ := gathers.exists_present placed fits fun _ _ => rfl
  obtain ⟨first, others, listed⟩ := List.exists_cons_of_ne_nil (List.ne_nil_of_mem there)
  obtain ⟨choice, fitsChoice, same, made⟩ :=
    gathers.exists_choice placed (listed ▸ List.mem_cons_self : first ∈ present child rows)
  obtain ⟨stored, linked, complete⟩ := fitsChoice.linked_child member placedOwner placed bears
  rw [same index (Above.self index)] at linked
  refine ⟨[choice child], [plan.node child first (Slices.agreeing child first rows)], ?_,
    List.nodup_singleton _, ?_, ?_⟩
  · intro record
    rw [List.mem_singleton]
    constructor
    · rintro rfl
      exact ⟨stored, linked, complete⟩
    · rintro ⟨storedRecord, linkedRecord, -⟩
      exact eq_of_linked grounded member placedOwner placed one (fits index owner placedOwner).1
        storedRecord stored linkedRecord linked
  · refine List.Forall₂.cons ?_ List.Forall₂.nil
    exact populated choice first _ fitsChoice made
      (gathers.agreeing grounded member placed fitsChoice same made)
  · rw [Entity.Holds, one]
    refine ⟨_, rfl, ?_⟩
    rw [related?_node grounded.names member, attached, one, listed]
    rfl

end Carries

mutual

theorem carries_node (grounded : plan.Grounded store registry) {index : Nat} {owner : Level}
    {base : Nat → Record} {rows : List Slices}
    (gathers : plan.Gathers store registry base index rows) (fits : plan.Fits store registry base)
    (placed : plan.levels[index]? = some owner) (entity : Entity) {below : Nat × Association}
    (member : below ∈ plan.children index) : {branch : Branch} → plan.Bears below branch →
    store.Carries registry owner.schema (base index) (plan.node index entity rows) branch
  | .mk association target nested, ⟨named, ⟨level, placedBelow, typed⟩, bears⟩ => by
      subst named
      subst typed
      have populated : ∀ (choice : Nat → Record) (entity : Entity) (others : List Slices),
          plan.Fits store registry choice → entity.MadeOf level.schema (choice below.1) →
            plan.Gathers store registry choice below.1 others →
              store.Populated registry level.schema (choice below.1) nested
                (plan.node below.1 entity others) := by
        intro choice entity others fitsChoice made gathersOthers
        apply populated_of_carriesAll grounded placedBelow fitsChoice bears made
        exact carriesAll_node grounded gathersOthers fitsChoice placedBelow entity (fun _ => id)
          bears
      cases cardinality : below.2.cardinality with
      | one =>
          exact carries_one grounded gathers fits member placed placedBelow bears populated
            cardinality entity
      | many =>
          exact carries_many grounded gathers fits member placed placedBelow bears populated
            cardinality entity

theorem carriesAll_node (grounded : plan.Grounded store registry) {index : Nat} {owner : Level}
    {base : Nat → Record} {rows : List Slices}
    (gathers : plan.Gathers store registry base index rows) (fits : plan.Fits store registry base)
    (placed : plan.levels[index]? = some owner) (entity : Entity)
    {belows : List (Nat × Association)} (listed : ∀ below ∈ belows, below ∈ plan.children index) :
    {branches : List Branch} → plan.BearsAll belows branches →
    store.CarriesAll registry owner.schema (base index) (plan.node index entity rows) branches
  | [], _ => trivial
  | _ :: _, ⟨below, others, equal, first, bears⟩ => by
      subst equal
      exact ⟨carries_node grounded gathers fits placed entity (listed below List.mem_cons_self)
        first, carriesAll_node grounded gathers fits placed entity
          (fun other there => listed other (List.mem_cons_of_mem _ there)) bears⟩

end

/-- Rows that show all choices below an instance stand for the populated instance. -/
theorem populated_node (grounded : plan.Grounded store registry)
    (gathers : plan.Gathers store registry base index rows) (fits : plan.Fits store registry base)
    (placed : plan.levels[index]? = some owner) {branches : List Branch}
    (bears : plan.BearsAll (plan.children index) branches) {entity : Entity}
    (made : entity.MadeOf owner.schema (base index)) :
    store.Populated registry owner.schema (base index) branches (plan.node index entity rows) :=
  populated_of_carriesAll grounded placed fits bears made
    (carriesAll_node grounded gathers fits placed entity (fun _ => id) bears)

end Node

end Plan

end EntityMapper
