import EntityMapper.Proofs.Plan.Folding

set_option autoImplicit false

/-! Taking in rows: the levels that stay the same are held further, the others are folded and held
anew. -/

namespace EntityMapper.Plan

open Entity Slices

variable {plan : Plan} {rows : List Slices} {start : Nat → Nat}

/-- Whether a level has a collection under a name at the instances of a level. -/
def collects (index : Nat) (name : String) (level : Level) : Bool :=
  match level.origin with
  | some origin =>
      origin.parent = index && level.cardinality = .many && origin.association.name = name
  | none => false

/-- Makes sure that an instance has the collection for a level below it. -/
def withCollection (index : Nat) (owner : Entity) (level : Level) : Entity :=
  match level.origin with
  | some origin =>
      if origin.parent = index ∧ level.cardinality = .many then
        owner.initMany origin.association.name
      else owner
  | none => owner

theorem withCollections_eq (plan : Plan) (index : Nat) (entity : Entity) :
    Assembly.withCollections plan index entity =
      plan.levels.foldl (withCollection index) entity := rfl

theorem bare_withCollection (index : Nat) (owner : Entity) (level : Level) :
    (withCollection index owner level).bare = owner.bare := by
  unfold withCollection
  split
  · split
    · exact (sameBut_initMany _ owner).bare
    · rfl
  · rfl

theorem sorted_withCollection {index : Nat} {owner : Entity} (level : Level)
    (sorted : Entries.Sorted owner.relations) :
    Entries.Sorted (withCollection index owner level).relations := by
  unfold withCollection
  split
  · split
    · exact (sameBut_initMany _ owner).sorted sorted
    · exact sorted
  · exact sorted

/-- A collection is empty if nothing has been attached before. -/
theorem related?_withCollection (index : Nat) (owner : Entity) (level : Level) (name : String) :
    (withCollection index owner level).related? name =
      (owner.related? name).or (if collects index name level then some (.many []) else none) := by
  unfold withCollection collects
  cases level.origin with
  | none => rw [if_neg Bool.false_ne_true, Option.or_none]
  | some origin =>
      dsimp only
      by_cases wanted : origin.parent = index ∧ level.cardinality = .many
      · by_cases same : origin.association.name = name
        · subst same
          rw [if_pos wanted, related?_initMany]
          cases owner.related? origin.association.name <;> simp [wanted]
        · rw [if_pos wanted, (sameBut_initMany _ owner).others name (Ne.symm same)]
          simp [same]
      · rw [if_neg wanted]
        rcases Decidable.not_and_iff_or_not.1 wanted with other | single
        · simp [other]
        · simp [single]

private theorem related?_foldl_withCollection (index : Nat) (name : String) (levels : List Level)
    (owner : Entity) :
    (levels.foldl (withCollection index) owner).related? name =
      (owner.related? name).or
        (if levels.any (collects index name) then some (.many []) else none) := by
  induction levels generalizing owner with
  | nil => rw [List.foldl_nil, List.any_nil, if_neg Bool.false_ne_true, Option.or_none]
  | cons level rest ih =>
      rw [List.foldl_cons, ih, related?_withCollection, Option.or_assoc, List.any_cons]
      cases collects index name level <;> cases rest.any (collects index name) <;> rfl

/-- Collections are wanted for levels below that hold many instances. -/
theorem exists_child_of_collects (ordered : plan.Ordered) {index : Nat} {name : String}
    (wanted : plan.levels.any (collects index name) = true) :
    ∃ child association, (child, association) ∈ plan.children index ∧ association.name = name ∧
      association.cardinality = .many := by
  obtain ⟨level, listed, collected⟩ := List.any_eq_true.1 wanted
  obtain ⟨child, placed⟩ := List.getElem?_of_mem listed
  obtain ⟨inside, -⟩ := List.getElem?_eq_some_iff.1 placed
  unfold collects at collected
  split at collected
  · rename_i origin found
    simp only [Bool.and_eq_true, decide_eq_true_eq] at collected
    obtain ⟨⟨parent, many⟩, same⟩ := collected
    have positive : 0 < child := by
      apply Nat.pos_of_ne_zero
      rintro rfl
      obtain rfl : plan.root = level := Option.some.inj placed
      cases ordered.root.symm.trans found
    obtain ⟨_, _, placed', found', less⟩ := ordered.origin positive inside
    cases placed.symm.trans placed'
    cases found.symm.trans found'
    refine ⟨child, origin.association,
      mem_children.2 ⟨level, origin, placed, found, parent, by omega, rfl⟩, same, ?_⟩
    rw [Level.cardinality, found] at many
    exact many
  · cases collected

theorem bare_foldl_withCollection (index : Nat) (levels : List Level) (owner : Entity) :
    (levels.foldl (withCollection index) owner).bare = owner.bare := by
  induction levels generalizing owner with
  | nil => rfl
  | cons level rest ih => rw [List.foldl_cons, ih, bare_withCollection]

theorem sorted_foldl_withCollection (index : Nat) (levels : List Level) {owner : Entity}
    (sorted : Entries.Sorted owner.relations) :
    Entries.Sorted (levels.foldl (withCollection index) owner).relations := by
  induction levels generalizing owner with
  | nil => exact sorted
  | cons level rest ih => exact ih (sorted_withCollection level sorted)

/-- An instance with nothing but its collections is one to which no rows have been attached. -/
theorem withCollections_eq_owner (ordered : plan.Ordered) (distinct : plan.DistinctNames)
    (index : Nat) {entity : Entity} (nothing : entity.relations = []) :
    Assembly.withCollections plan index entity = plan.owner index entity fun _ => [] := by
  have empty (name : String) : entity.related? name = none := by
    rw [related?, nothing, Entries.get?_nil]
  rw [withCollections_eq]
  apply eq_owner distinct
  · exact bare_foldl_withCollection index plan.levels entity
  · exact sorted_foldl_withCollection index plan.levels (nothing ▸ List.Pairwise.nil)
  · intro child association member
    obtain ⟨level, origin, placed, found, parent, -, rfl⟩ := mem_children.1 member
    have same : level.cardinality = origin.association.cardinality := by
      rw [Level.cardinality, found]
      rfl
    have listed : level ∈ plan.levels := List.mem_of_getElem? placed
    rw [related?_foldl_withCollection, empty, Option.none_or]
    cases cardinality : origin.association.cardinality with
    | many =>
        have wanted : plan.levels.any (collects index origin.association.name) = true := by
          apply List.any_eq_true.2
          exact ⟨level, listed, by simp [collects, found, parent, same, cardinality]⟩
        rw [if_pos wanted, attached_many _ cardinality]
        rfl
    | one =>
        have unwanted : plan.levels.any (collects index origin.association.name) = false := by
          rw [Bool.eq_false_iff]
          intro wanted
          obtain ⟨other, another, listed, name, many⟩ := exists_child_of_collects ordered wanted
          cases distinct.eq_of_name listed member name
          cases cardinality.symm.trans many
        rw [unwanted, if_neg Bool.false_ne_true, attached_one _ cardinality]
        rfl
  · intro name absent
    have unwanted : plan.levels.any (collects index name) = false := by
      rw [Bool.eq_false_iff]
      intro wanted
      obtain ⟨other, another, listed, same, -⟩ := exists_child_of_collects ordered wanted
      exact absent (other, another) listed same
    rw [related?_foldl_withCollection, empty, unwanted]
    rfl

/-- The positions from which on rows are alike, with another row that differs from a level on. -/
def startFrom (start : Nat → Nat) (first position : Nat) : Nat → Nat :=
  fun index => if index < first then start index else position

theorem startFrom_of_lt {first position index : Nat} (less : index < first) :
    startFrom start first position index = start index := if_pos less

theorem startFrom_of_le {first position index : Nat} (least : first ≤ index) :
    startFrom start first position index = position := if_neg (by omega)

theorem spans_singleton {row : Slices} (clean : row.Clean) (rooted : hasRoot row = true) :
    plan.Spans [row] fun _ => 0 := by
  refine ⟨List.forall_mem_singleton.2 clean, List.forall_mem_singleton.2 rooted, rfl,
    fun _ _ _ => Nat.le_refl _, fun _ => Nat.succ_pos _, ?_⟩
  intro index position first later _ here there
  obtain rfl : row = first := Option.some.inj here
  have same : position = 0 := by
    have inside := (List.getElem?_eq_some_iff.1 there).1
    rw [List.length_singleton] at inside
    omega
  subst same
  obtain rfl : row = later := Option.some.inj there
  cases found : row.at? index with
  | none => exact Or.inl ⟨found, found⟩
  | some entity =>
      exact Or.inr (agree_iff.2
        ⟨entity, entity, found, found, (clean.read index entity found).isSame_self⟩)

/-- One row more, which is alike to what is held before a level. -/
theorem Spans.append {row : Slices} {first : Nat} (spans : plan.Spans rows start)
    (clean : row.Clean) (rooted : hasRoot row = true) (positive : 0 < first)
    (alike : ∀ index top, index < first → rows[start index]? = some top → Alike index top row) :
    plan.Spans (rows ++ [row]) (startFrom start first rows.length) := by
  refine ⟨List.forall_mem_append.2 ⟨spans.clean, List.forall_mem_singleton.2 clean⟩,
    List.forall_mem_append.2 ⟨spans.rooted, List.forall_mem_singleton.2 rooted⟩, ?_, ?_, ?_, ?_⟩
  · rw [startFrom_of_lt positive, spans.root]
  · intro index other ordered
    have inside := spans.inside index
    have monotone := spans.monotone index other ordered
    rw [startFrom, startFrom]
    split <;> split <;> omega
  · intro index
    have inside := spans.inside index
    rw [List.length_append, List.length_singleton, startFrom]
    split <;> omega
  · intro index position top later ordered here there
    have bound := (List.getElem?_eq_some_iff.1 there).1
    rw [List.length_append, List.length_singleton] at bound
    by_cases less : index < first
    · rw [startFrom_of_lt less] at ordered here
      rw [List.getElem?_append_left (spans.inside index)] at here
      by_cases last : position < rows.length
      · rw [List.getElem?_append_left last] at there
        exact spans.alike index position top later ordered here there
      · rw [List.getElem?_append_right (by omega)] at there
        have same : position - rows.length = 0 := by omega
        rw [same] at there
        obtain rfl : row = later := Option.some.inj there
        exact alike index top less here
    · rw [startFrom_of_le (by omega)] at ordered here
      have same : position = rows.length := by omega
      rw [same, List.getElem?_append_right (Nat.le_refl _), Nat.sub_self] at there
      rw [List.getElem?_append_right (Nat.le_refl _), Nat.sub_self] at here
      obtain rfl : row = top := Option.some.inj here
      obtain rfl : row = later := Option.some.inj there
      have alone : plan.Spans [row] fun _ => 0 := spans_singleton clean rooted
      exact alone.alike index 0 row row (Nat.le_refl _) rfl rfl

/-- A row is held from a level on, with the rows before it folded from there on. -/
theorem holds_hold (ordered : plan.Ordered) (distinct : plan.DistinctNames) {held row : Slices}
    {first : Nat} (holds : plan.Holds rows start first held) (inside : first ≤ plan.levels.length)
    (before : ∀ index, index < first → start index < rows.length)
    (length : row.length = plan.levels.length) (clean : row.Clean) :
    plan.Holds (rows ++ [row]) (startFrom start first rows.length) plan.levels.length
      (held.take first ++ (Assembly.prepared plan row).drop first) := by
  have taken : (held.take first).length = first := by
    rw [List.length_take, holds.length]
    omega
  refine ⟨?_, ?_, ?_⟩
  · rw [List.length_append, taken, List.length_drop, Assembly.prepared, List.length_mapIdx, length]
    omega
  · intro index least less
    omega
  · intro index top _ small here
    by_cases less : index < first
    · -- This level is held as before.
      rw [startFrom_of_lt less, List.getElem?_append_left (before index less)] at here
      obtain ⟨slot, shown, holdsHere⟩ := holds.slots index top less small here
      refine ⟨slot, ?_, holdsHere.absent, ?_⟩
      · rw [List.getElem?_append_left (by omega), List.getElem?_take_of_lt less, shown]
      · intro entity found
        obtain ⟨owned, equal, bare, reached⟩ := holdsHere.present entity found
        refine ⟨owned, equal, bare, ?_⟩
        intro path
        rw [reached path]
        apply owner_congr
        intro child association member
        have bounds := child_bounds member
        rw [attachedRows, attachedRows, if_pos bounds.2, startFrom_of_lt less]
        by_cases deeper : child < first
        · rw [if_pos deeper, startFrom_of_lt deeper,
            stretch_append rows [row] _ (Nat.le_of_lt (before child deeper))]
        · rw [if_neg deeper, startFrom_of_le (by omega), stretch, List.take_left]
    · -- From here on the new row is held, and nothing has been attached.
      rw [startFrom_of_le (by omega), List.getElem?_append_right (Nat.le_refl _),
        Nat.sub_self] at here
      obtain rfl : row = top := Option.some.inj here
      have shown : row[index]? = some (row.at? index) := by
        rw [at?, List.getElem?_eq_getElem (by omega)]
        rfl
      refine ⟨(row.at? index).map (Assembly.withCollections plan index), ?_, ?_, ?_⟩
      · rw [List.getElem?_append_right (by omega), taken, List.getElem?_drop, Assembly.prepared,
          List.getElem?_mapIdx, Nat.add_sub_cancel' (by omega), shown]
        rfl
      · intro absent
        rw [absent, Option.map_none]
      · intro entity found
        have fresh := withCollections_eq_owner ordered distinct index
          (clean.bare index entity found)
        refine ⟨_, by rw [found, Option.map_some], ?_, ?_⟩
        · rw [fresh, bare_owner]
        · intro path
          rw [fresh]
          apply owner_congr
          intro child association member
          have bounds := child_bounds member
          rw [attachedRows, if_pos bounds.2, startFrom_of_le (by omega),
            startFrom_of_le (by omega), stretch_self]

theorem matchingLevels_le (held row : Slices) :
    Assembly.matchingLevels held row ≤ row.length := by
  induction held generalizing row with
  | nil => exact Nat.zero_le _
  | cons slot rest ih =>
      cases row with
      | nil => cases slot <;> exact Nat.zero_le _
      | cons current others =>
          have shorter := ih others
          cases slot <;> cases current <;> simp only [Assembly.matchingLevels, List.length_cons] <;>
            first | omega | (split <;> omega)

/-- Before the first level that differs, a row has the instance that is held, or none. -/
theorem same_of_lt_matchingLevels {held row : Slices} {index : Nat}
    (less : index < Assembly.matchingLevels held row) :
    (held[index]? = some none ∧ row[index]? = some none) ∨
      ∃ found current, held[index]? = some (some found) ∧ row[index]? = some (some current) ∧
        found.isSame current = true := by
  induction held generalizing row index with
  | nil => exact absurd less (Nat.not_lt_zero _)
  | cons slot rest ih =>
      cases row with
      | nil => cases slot <;> exact absurd less (Nat.not_lt_zero _)
      | cons current others =>
          cases slot with
          | none =>
              cases current with
              | some entity => exact absurd less (Nat.not_lt_zero _)
              | none =>
                  cases index with
                  | zero => exact Or.inl ⟨rfl, rfl⟩
                  | succ index => exact ih (Nat.lt_of_succ_lt_succ less)
          | some found =>
              cases current with
              | none => exact absurd less (Nat.not_lt_zero _)
              | some entity =>
                  rw [Assembly.matchingLevels] at less
                  split at less
                  · rename_i same
                    cases index with
                    | zero => exact Or.inr ⟨found, entity, rfl, rfl, same⟩
                    | succ index => exact ih (Nat.lt_of_succ_lt_succ less)
                  · exact absurd less (Nat.not_lt_zero _)

/-- What is held for the rows of one root. -/
structure Holding (plan : Plan) (rows : List Slices) (held : Slices) (start : Nat → Nat) :
    Prop where
  spans : plan.Spans rows start
  holds : plan.Holds rows start plan.levels.length held

/-- A row that can be taken in. -/
structure Complete (plan : Plan) (row : Slices) : Prop where
  clean : row.Clean
  rooted : hasRoot row = true
  length : row.length = plan.levels.length

/-- A row is alike to what is held where it is the same. -/
theorem Holding.alike {held row top : Slices} {index : Nat}
    (holding : plan.Holding rows held start) (length : row.length = plan.levels.length)
    (less : index < Assembly.matchingLevels held row)
    (here : rows[start index]? = some top) : Alike index top row := by
  have bound := matchingLevels_le held row
  obtain ⟨slot, shown, holdsHere⟩ := holding.holds.slots index top (by omega) (by omega) here
  rcases same_of_lt_matchingLevels less with
    ⟨absent, missing⟩ | ⟨found, current, present, there, same⟩
  · have nothing : top.at? index = none := by
      cases stored : top.at? index with
      | none => rfl
      | some entity =>
          obtain ⟨owned, rfl, -⟩ := holdsHere.present entity stored
          cases shown.symm.trans absent
    exact Or.inl ⟨nothing, by rw [at?, missing]; rfl⟩
  · cases stored : top.at? index with
    | none =>
        rw [holdsHere.absent stored] at shown
        cases shown.symm.trans present
    | some entity =>
        obtain ⟨owned, rfl, bare, -⟩ := holdsHere.present entity stored
        cases shown.symm.trans present
        rw [isSame_congr bare rfl] at same
        exact Or.inr (agree_iff.2 ⟨entity, current, stored, by rw [at?, there]; rfl, same⟩)

theorem exists_root {row : Slices} (rooted : hasRoot row = true) :
    ∃ entity, row.at? 0 = some entity := by
  cases row with
  | nil => cases rooted
  | cons first rest =>
      cases first with
      | none => cases rooted
      | some entity => exact ⟨entity, rfl⟩

/-- The instance for which all rows of one root stand. -/
def instance? (plan : Plan) (index : Nat) (rows : List Slices) : Option Entity :=
  (present index rows).head?.map fun entity => plan.node index entity rows

section Push

variable {held row : Slices} (ordered : plan.Ordered) (distinct : plan.DistinctNames)
  (holding : plan.Holding rows held start) (single : plan.OnePerPath rows)

include ordered distinct holding single

/-- Folding all levels completes the root. -/
theorem Holding.flush_root (finished : List Entity) :
    ∃ root others, plan.instance? 0 rows = some root ∧
      Assembly.flush plan 0 ⟨held, finished⟩ = ⟨none :: others, finished ++ [root]⟩ ∧
      plan.Holds [] start 0 (none :: others) := by
  have positive : 0 < plan.levels.length := Nat.succ_pos _
  have folded := holds_foldLevels ordered distinct holding.spans single holding.holds 1
    Nat.one_pos positive
  obtain ⟨top, here, topIn⟩ := holding.spans.exists_row 0
  obtain ⟨slot, shown, holdsHere⟩ := folded.slots 0 top Nat.one_pos positive here
  rw [holding.spans.root] at here
  obtain ⟨entity, found⟩ := exists_root (holding.spans.rooted top topIn)
  obtain ⟨root, rfl, -, reached⟩ := holdsHere.present entity found
  have path : plan.SamePath 0 top top := by
    intro ancestor above
    obtain rfl : ancestor = 0 := Nat.le_zero.1 above.le
    have read := (holding.spans.clean top topIn).read 0 entity found
    exact agree_iff.2 ⟨entity, entity, found, found, read.isSame_self⟩
  have whole := reached path
  rw [owner_deepest, holding.spans.root, List.drop_zero] at whole
  obtain ⟨others, written⟩ : ∃ others, (Assembly.indicesFrom plan.levels 1).foldl
      (Assembly.foldLevel plan.levels) held = some root :: others := by
    cases listed : (Assembly.indicesFrom plan.levels 1).foldl
        (Assembly.foldLevel plan.levels) held with
    | nil =>
        rw [listed] at shown
        cases shown
    | cons first rest =>
        rw [listed] at shown
        exact ⟨rest, by rw [Option.some.inj shown]⟩
  refine ⟨root, others, ?_, ?_, ?_⟩
  · cases rows with
    | nil => cases here
    | cons first rest =>
        obtain rfl : first = top := Option.some.inj here
        have listed : present 0 (first :: rest) = entity :: present 0 rest := by
          simp [present, found]
        rw [instance?, listed, List.head?_cons, Option.map_some, whole]
  · have least : max 0 1 = 1 := rfl
    rw [Assembly.flush, least, written]
    rfl
  · have length := folded.length
    rw [written] at length
    refine ⟨length, ?_, fun index first less => absurd less (Nat.not_lt_zero _)⟩
    intro index _ inside
    cases index with
    | zero => rfl
    | succ index =>
        have below := folded.folded (index + 1) (by omega) inside
        rw [written] at below
        exact below

/-- A row of the root that is held. -/
theorem Holding.push_same (complete : plan.Complete row) (finished : List Entity)
    (same : 0 < Assembly.matchingLevels held row) :
    ∃ next others, Assembly.push plan row ⟨held, finished⟩ = ⟨next, finished⟩ ∧
      plan.Holding (rows ++ [row]) next others := by
  have bound := matchingLevels_le held row
  have inside : Assembly.matchingLevels held row ≤ plan.levels.length :=
    complete.length ▸ bound
  have folded := holds_foldLevels ordered distinct holding.spans single holding.holds
    (Assembly.matchingLevels held row) same inside
  have spans := holding.spans.append complete.clean complete.rooted same fun index top less here =>
    holding.alike complete.length less here
  have next := holds_hold ordered distinct folded inside (fun index _ => holding.spans.inside index)
    complete.length complete.clean
  have least : max (Assembly.matchingLevels held row) 1 = Assembly.matchingLevels held row := by
    omega
  rw [Assembly.push]
  by_cases differs : Assembly.matchingLevels held row < row.length
  · have below : ¬ Assembly.matchingLevels held row = 0 := by omega
    refine ⟨_, _, ?_, spans, next⟩
    rw [if_pos differs, Assembly.flush, if_neg below, least]
    rfl
  · -- All levels are the same, so that nothing is folded.
    refine ⟨held, _, by rw [if_neg differs], spans, ?_⟩
    have all : Assembly.matchingLevels held row = plan.levels.length := by
      have length := complete.length
      omega
    have nothing : Assembly.indicesFrom plan.levels plan.levels.length = [] := by
      rw [Assembly.indicesFrom, Nat.sub_self]
      rfl
    have prepared : (Assembly.prepared plan row).length = plan.levels.length := by
      rw [Assembly.prepared, List.length_mapIdx, complete.length]
    rw [all, nothing, List.foldl_nil, List.take_of_length_le (Nat.le_of_eq holding.holds.length),
      List.drop_of_length_le (Nat.le_of_eq prepared), List.append_nil] at next
    rw [all]
    exact next

/-- A row of another root than the one that is held. -/
theorem Holding.push_next (complete : plan.Complete row) (finished : List Entity)
    (other : Assembly.matchingLevels held row = 0) :
    ∃ root next, plan.instance? 0 rows = some root ∧
      Assembly.push plan row ⟨held, finished⟩ = ⟨next, finished ++ [root]⟩ ∧
      plan.Holding [row] next fun _ => 0 := by
  obtain ⟨root, others, stands, flushed, vacant⟩ :=
    holding.flush_root ordered distinct single finished
  have next := holds_hold ordered distinct vacant (Nat.zero_le _)
    (fun index less => absurd less (Nat.not_lt_zero _)) complete.length complete.clean
  have positive : 0 < row.length := by
    rw [complete.length]
    exact Nat.succ_pos _
  refine ⟨root, _, stands, ?_, spans_singleton complete.clean complete.rooted, next⟩
  rw [Assembly.push, other, if_pos positive, flushed]
  rfl

end Push

/-- Nothing is folded where nothing is held. -/
theorem foldl_foldLevel_of_vacant {levels : List Level} {held : Slices} (indices : List Nat)
    (vacant : ∀ slot ∈ held, slot = none) :
    indices.foldl (Assembly.foldLevel levels) held = held := by
  induction indices with
  | nil => rfl
  | cons index rest ih =>
      have unchanged : Assembly.foldLevel levels held index = held := by
        unfold Assembly.foldLevel
        split
        · rename_i child level shown placed
          cases vacant _ (List.mem_of_getElem? shown)
        · rfl
      rw [List.foldl_cons, unchanged, ih]

theorem vacant_start (plan : Plan) :
    ∀ slot ∈ plan.levels.map fun _ => (none : Option Entity), slot = none := by
  intro slot member
  obtain ⟨level, -, rfl⟩ := List.mem_map.1 member
  rfl

theorem flush_start (plan : Plan) : Assembly.flush plan 0 (.start plan) = .start plan := by
  rw [Assembly.flush, Assembly.start, foldl_foldLevel_of_vacant _ (vacant_start plan)]
  rfl

/-- A row with a root has nothing in common with what is held at the start. -/
theorem matchingLevels_start {row : Slices} (complete : plan.Complete row) :
    Assembly.matchingLevels (Assembly.start plan).held row = 0 := by
  have rooted := complete.rooted
  cases row with
  | nil => rfl
  | cons slot rest =>
      cases slot with
      | none => cases rooted
      | some entity => rfl

/-- The first row with a root. -/
theorem push_start (ordered : plan.Ordered) (distinct : plan.DistinctNames) {row : Slices}
    (complete : plan.Complete row) :
    ∃ next, Assembly.push plan row (.start plan) = ⟨next, []⟩ ∧
      plan.Holding [row] next fun _ => 0 := by
  have nothing : plan.Holds [] (fun _ => 0) 0 (plan.levels.map fun _ => none) := by
    refine ⟨List.length_map _, ?_, fun index first less => absurd less (Nat.not_lt_zero _)⟩
    intro index _ inside
    rw [List.getElem?_map, List.getElem?_eq_getElem inside]
    rfl
  have next := holds_hold ordered distinct nothing (Nat.zero_le _)
    (fun index less => absurd less (Nat.not_lt_zero _)) complete.length complete.clean
  have positive : 0 < row.length := by
    rw [complete.length]
    exact Nat.succ_pos _
  refine ⟨_, ?_, spans_singleton complete.clean complete.rooted, next⟩
  rw [Assembly.push, matchingLevels_start complete, if_pos positive, flush_start]
  rfl

end EntityMapper.Plan
