import EntityMapper.Proofs.Blocks
import EntityMapper.Proofs.Plan.Materialize
import EntityMapper.Proofs.Plan.Showing

set_option autoImplicit false

/-! Rows that show all choices of linked rows, those of one root together, stand for the populated
roots. -/

namespace EntityMapper.Plan

open Entity Slices Store

/-- All choices of linked rows, those of one root together and the roots in an order. -/
structure Exhausts (store : Store) (registry : Registry) (plan : Plan)
    (before : Record → Record → Prop) (choices : List (Nat → Record)) : Prop where
  fits : ∀ choice ∈ choices, plan.Fits store registry choice
  complete : ∀ choice, plan.Fits store registry choice →
    ∃ other ∈ choices, ∀ index, index < plan.levels.length → other index = choice index
  sorted : choices.Pairwise fun left right => left 0 = right 0 ∨ before (left 0) (right 0)

section Shown

variable {store : Store} {registry : Registry} {plan : Plan} {index : Nat} {level : Level}
  {choice other : Nat → Record} {slices : Slices}

/-- What is shown is chosen. -/
theorem eq_of_shows (grounded : plan.Grounded store registry)
    (placed : plan.levels[index]? = some level) (fits : plan.Fits store registry choice)
    (fitsOther : plan.Fits store registry other) (shows : plan.Shows choice slices)
    (showsOther : plan.Shows other slices) : choice index = other index := by
  obtain ⟨entity, found, made, -⟩ := shows index level placed
  have stored := (fits index level placed).1
  have has : slices.has index entity = true :=
    (has_iff_of_shows grounded placed made stored fits shows).2 rfl
  exact ((has_iff_of_shows grounded placed made stored fitsOther showsOther).1 has).symm

theorem Shows.congr (shows : plan.Shows choice slices)
    (same : ∀ index, index < plan.levels.length → other index = choice index) :
    plan.Shows other slices := by
  intro index level placed
  rw [same index (List.getElem?_eq_some_iff.1 placed).1]
  exact shows index level placed

theorem sameRoot_iff (grounded : plan.Grounded store registry) {left right : Slices}
    (fits : plan.Fits store registry choice) (fitsOther : plan.Fits store registry other)
    (shows : plan.Shows choice left) (showsOther : plan.Shows other right) :
    sameRoot left right = true ↔ choice 0 = other 0 := by
  obtain ⟨entity, found, made, -⟩ := shows 0 plan.root rfl
  have stored := (fits 0 plan.root rfl).1
  rw [sameRoot, found, eq_comm (a := choice 0)]
  exact has_iff_of_shows grounded rfl made stored fitsOther showsOther

/-- Rows that show choices have one instance for each owner where one is promised. -/
theorem onePerPath_of_shows (grounded : plan.Grounded store registry) {rows : List Slices}
    (shown : ∀ row ∈ rows, ∃ choice, plan.Fits store registry choice ∧ plan.Shows choice row) :
    plan.OnePerPath rows := by
  intro index child association member one left inLeft right inRight same first second foundFirst
    foundSecond
  obtain ⟨choice, fits, shows⟩ := shown left inLeft
  obtain ⟨other, fitsOther, showsOther⟩ := shown right inRight
  obtain ⟨target, origin, placed, -, -, -, -⟩ := mem_children.1 member
  have bounds := child_bounds member
  have placedOwner := List.getElem?_eq_getElem (Nat.lt_trans bounds.1 bounds.2)
  obtain ⟨owner, foundOwner, has⟩ := same index (Above.self index)
  obtain ⟨again, foundAgain, madeOwner, -⟩ := shows index _ placedOwner
  cases foundOwner.symm.trans foundAgain
  have storedOwner := (fits index _ placedOwner).1
  have owners : other index = choice index :=
    (has_iff_of_shows grounded placedOwner madeOwner storedOwner fitsOther showsOther).1 has
  obtain ⟨stored, linked⟩ := fits child target placed
  obtain ⟨storedOther, linkedOther⟩ := fitsOther child target placed
  have targets : choice child = other child := by
    apply eq_of_linked grounded member placedOwner placed one storedOwner stored storedOther
      (linked index association _ member placedOwner)
    rw [← owners]
    exact linkedOther index association _ member placedOwner
  obtain ⟨_, foundLeft, madeLeft, -⟩ := shows child target placed
  obtain ⟨_, foundRight, madeRight, -⟩ := showsOther child target placed
  cases foundFirst.symm.trans foundLeft
  cases foundSecond.symm.trans foundRight
  exact (isSame_iff grounded placed madeLeft madeRight stored storedOther).2 targets

end Shown

section Runs

variable {store : Store} {registry : Registry} {plan : Plan} {before : Record → Record → Prop}
  {choices : List (Nat → Record)} {rows : List Slices} {branches : List Branch}

/-- One run of rows shows all choices of one root. -/
theorem Exhausts.populated_run (grounded : plan.Grounded store registry)
    (bears : plan.BearsAll (plan.children 0) branches)
    (exhausts : plan.Exhausts store registry before choices)
    {choiceOf : Slices → Nat → Record}
    (facts : ∀ row ∈ rows, plan.Fits store registry (choiceOf row) ∧ plan.Shows (choiceOf row) row)
    (shown : ∀ choice ∈ choices, ∃ row ∈ rows, plan.Shows choice row) {run : List Slices}
    (subset : ∀ row ∈ run, row ∈ rows) {first : Slices} (member : first ∈ run)
    (whole : ∀ row ∈ rows, row ∈ run ↔ choiceOf row 0 = choiceOf first 0) :
    ∃ root, plan.instance? 0 run = some root ∧
      store.Populated registry plan.root.schema (choiceOf first 0) branches root := by
  obtain ⟨fits, -⟩ := facts first (subset first member)
  have gathers : plan.Gathers store registry (choiceOf first) 0 run := by
    constructor
    · intro row there
      obtain ⟨fitsRow, showsRow⟩ := facts row (subset row there)
      refine ⟨choiceOf row, fitsRow, showsRow, fun ancestor above => ?_⟩
      obtain rfl : ancestor = 0 := Nat.le_zero.1 above.le
      exact (whole row (subset row there)).1 there
    · intro choice fitsChoice same
      obtain ⟨other, listed, alike⟩ := exhausts.complete choice fitsChoice
      obtain ⟨row, there, shows⟩ := shown other listed
      have showsChoice : plan.Shows choice row :=
        shows.congr fun index inside => (alike index inside).symm
      obtain ⟨fitsRow, showsRow⟩ := facts row there
      refine ⟨row, (whole row there).2 ?_, showsChoice⟩
      rw [eq_of_shows grounded plan.levels_zero fitsRow fitsChoice showsRow showsChoice]
      exact same 0 (Above.self 0)
  obtain ⟨shownRoot, there, -⟩ := gathers.exists_present plan.levels_zero fits fun _ _ => rfl
  obtain ⟨root, others, listed⟩ := List.exists_cons_of_ne_nil (List.ne_nil_of_mem there)
  obtain ⟨choice, fitsRoot, same, made⟩ := gathers.exists_choice plan.levels_zero
    (listed ▸ List.mem_cons_self : root ∈ present 0 run)
  rw [same 0 (Above.self 0)] at made
  refine ⟨plan.node 0 root run, ?_, ?_⟩
  · rw [instance?, listed]
    rfl
  · exact populated_node grounded gathers fits rfl bears made

/-- For each row there is the choice that it shows, in the order of the roots. -/
theorem Exhausts.exists_choiceOf (grounded : plan.Grounded store registry)
    (exhausts : plan.Exhausts store registry before choices)
    (shown : List.Forall₂ plan.Shows choices rows) :
    ∃ choiceOf : Slices → Nat → Record,
      (∀ row ∈ rows, plan.Fits store registry (choiceOf row) ∧ plan.Shows (choiceOf row) row) ∧
      rows.Pairwise fun left right =>
        choiceOf left 0 = choiceOf right 0 ∨ before (choiceOf left 0) (choiceOf right 0) := by
  have chosen : ∀ row ∈ rows, ∃ choice : Nat → Record,
      plan.Fits store registry choice ∧ plan.Shows choice row := by
    intro row there
    obtain ⟨choice, member, shows⟩ := Pairing.exists_left shown there
    exact ⟨choice, exhausts.fits choice member, shows⟩
  choose! choiceOf facts using chosen
  refine ⟨choiceOf, facts, (Pairing.pairwise shown exhausts.sorted).imp_of_mem ?_⟩
  rintro left right inLeft inRight
    ⟨first, member, second, memberOther, shows, showsOther, leads⟩
  have equalLeft : first 0 = choiceOf left 0 := eq_of_shows grounded plan.levels_zero
    (exhausts.fits first member) (facts left inLeft).1 shows (facts left inLeft).2
  have equalRight : second 0 = choiceOf right 0 := eq_of_shows grounded plan.levels_zero
    (exhausts.fits second memberOther) (facts right inRight).1 showsOther (facts right inRight).2
  rwa [equalLeft, equalRight] at leads

/-- Each run of rows shows all choices of one record of the roots, and the runs are in the order of
these records. -/
theorem Exhausts.exists_recordOf (grounded : plan.Grounded store registry)
    (bears : plan.BearsAll (plan.children 0) branches)
    (exhausts : plan.Exhausts store registry before choices)
    (transitive : ∀ {first second third : Record}, before first second → before second third →
      before first third)
    (irreflexive : ∀ record, ¬ before record record)
    (shown : List.Forall₂ plan.Shows choices rows) :
    ∃ (choiceOf : Slices → Nat → Record) (recordOf : List Slices → Record),
      (∀ row ∈ rows, plan.Fits store registry (choiceOf row) ∧ plan.Shows (choiceOf row) row) ∧
      (∀ run ∈ runs rows, (∀ row ∈ run, choiceOf row 0 = recordOf run) ∧
        ∃ root, plan.instance? 0 run = some root ∧
          store.Populated registry plan.root.schema (recordOf run) branches root) ∧
      (runs rows).Pairwise fun first second => before (recordOf first) (recordOf second) := by
  obtain ⟨choiceOf, facts, sorted⟩ := exhausts.exists_choiceOf grounded shown
  -- Rows are compared by the records of their roots.
  have agree : ∀ left ∈ rows, ∀ right ∈ rows,
      sameRoot left right = true ↔ choiceOf left 0 = choiceOf right 0 := by
    intro left inLeft right inRight
    exact sameRoot_iff grounded (facts left inLeft).1 (facts right inRight).1 (facts left inLeft).2
      (facts right inRight).2
  have each : ∀ run ∈ runs rows, ∃ first, first ∈ run ∧
      (∀ row ∈ run, choiceOf row 0 = choiceOf first 0) ∧
      ∃ root, plan.instance? 0 run = some root ∧
        store.Populated registry plan.root.schema (choiceOf first 0) branches root := by
    intro run member
    obtain ⟨first, inside⟩ := List.exists_mem_of_ne_nil run (List.ne_nil_of_mem_splitBy member)
    refine ⟨first, inside, fun row there =>
      Blocks.key_eq_of_mem_block agree member there inside, ?_⟩
    exact exhausts.populated_run grounded bears facts
      (fun choice listed => Pairing.exists_right shown listed)
      (fun row there => Blocks.mem_of_mem_block member there) inside fun row there =>
        Blocks.mem_block_iff agree sorted transitive irreflexive member inside there
  choose! firstOf described using each
  refine ⟨choiceOf, fun run => choiceOf (firstOf run) 0, facts,
    fun run member => (described run member).2, ?_⟩
  refine (Blocks.pairwise_blocks agree sorted transitive).imp_of_mem ?_
  intro first second inFirst inSecond leads
  exact leads _ (described first inFirst).1 _ (described second inSecond).1

/-- Every complete row of the roots gives one populated root, in the order of the choices. -/
theorem Exhausts.populated (grounded : plan.Grounded store registry) (ordered : plan.Ordered)
    (bears : plan.BearsAll (plan.children 0) branches)
    (exhausts : plan.Exhausts store registry before choices)
    (transitive : ∀ {first second third : Record}, before first second → before second third →
      before first third)
    (irreflexive : ∀ record, ¬ before record record)
    (shown : List.Forall₂ plan.Shows choices rows) (complete : ∀ row ∈ rows, plan.Complete row) :
    ∃ records,
      List.Forall₂ (fun record root =>
          store.Populated registry plan.root.schema record branches root)
        records ((pushAll plan rows (.start plan)).result plan) ∧
      (∀ record, record ∈ records ↔ record ∈ store.rows plan.root.schema.table ∧
        store.Complete registry plan.root.schema record branches) ∧
      records.Pairwise before := by
  obtain ⟨choiceOf, recordOf, facts, described, sorted⟩ :=
    exhausts.exists_recordOf grounded bears transitive irreflexive shown
  have single : ∀ run ∈ runs rows, plan.OnePerPath run := by
    intro run member
    apply onePerPath_of_shows grounded
    intro row there
    exact ⟨choiceOf row, facts row (Blocks.mem_of_mem_block member there)⟩
  have stands := result_pushAll ordered grounded.names complete single
  have pairs : List.Forall₂ (fun run root => plan.instance? 0 run = some root) (runs rows)
      ((pushAll plan rows (.start plan)).result plan) := by
    rw [← List.forall₂_map_right_iff (f := some)
        (R := fun run root => plan.instance? 0 run = root),
      ← List.forall₂_map_left_iff (f := plan.instance? 0) (R := Eq), stands]
    exact List.forall₂_refl _
  refine ⟨(runs rows).map recordOf, ?_, ?_, List.pairwise_map.2 sorted⟩
  · rw [List.forall₂_map_left_iff]
    have listed := (List.forall₂_and_left (p := fun run => run ∈ runs rows) _ _).2
      ⟨fun run member => member, pairs⟩
    refine listed.imp ?_
    rintro run root ⟨member, found⟩
    obtain ⟨-, other, foundOther, populated⟩ := described run member
    cases found.symm.trans foundOther
    exact populated
  · intro record
    constructor
    · intro listed
      obtain ⟨run, member, rfl⟩ := List.mem_map.1 listed
      obtain ⟨row, there⟩ := List.exists_mem_of_ne_nil run (List.ne_nil_of_mem_splitBy member)
      obtain ⟨fits, -⟩ := facts row (Blocks.mem_of_mem_block member there)
      rw [← (described run member).1 row there]
      exact ⟨(fits 0 plan.root rfl).1, fits.complete plan.levels_zero (fun _ => id) bears⟩
    · rintro ⟨stored, complete⟩
      obtain ⟨choice, fits, rfl⟩ := exists_fits_of_complete ordered bears stored complete
      obtain ⟨other, listed, alike⟩ := exhausts.complete choice fits
      obtain ⟨row, there, shows⟩ := Pairing.exists_right shown listed
      obtain ⟨run, member, inside⟩ := Blocks.exists_block sameRoot there
      have equal : choiceOf row 0 = other 0 := eq_of_shows grounded plan.levels_zero
        (facts row there).1 (exhausts.fits other listed) (facts row there).2 shows
      refine List.mem_map.2 ⟨run, member, ?_⟩
      rw [← (described run member).1 row inside, equal]
      exact alike 0 (Nat.succ_pos _)

end Runs

end EntityMapper.Plan
