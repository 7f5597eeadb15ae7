import EntityMapper.Proofs.Plan.Materialize

set_option autoImplicit false

/-! Each run of rows of one root gives one root, whatever the rows hold at the other levels: nothing
but what is attached to a root changes while it is held. -/

namespace EntityMapper.Plan

open Entity Slices

variable {plan : Plan} {rows : List Slices} {held row : Slices} {root entity : Entity}

/-- The root is that of a row of the run, with something attached to it. -/
def Heads (run : List Slices) (root : Entity) : Prop :=
  ∃ row ∈ run, ∃ entity, row.at? 0 = some entity ∧ root.bare = entity.bare

section Fold

variable {levels : List Level} {index : Nat}

theorem root_foldLevel (below : 0 < index) (holds : held[0]? = some (some root)) :
    ∃ other, (Assembly.foldLevel levels held index)[0]? = some (some other) ∧
      other.bare = root.bare := by
  unfold Assembly.foldLevel
  split
  · rename_i child level shown placed
    split
    · rename_i origin attachedBy
      have kept : (held.set index none)[0]? = some (some root) := by
        rw [List.getElem?_set_ne (Nat.ne_of_gt below), holds]
      by_cases parent : origin.parent = 0
      · rw [parent, List.getElem?_modify_eq, kept]
        exact ⟨_, rfl, (sameBut_attachAt level origin child root).bare⟩
      · rw [List.getElem?_modify_ne _ _ parent, kept]
        exact ⟨root, rfl, rfl⟩
    · exact ⟨root, holds, rfl⟩
  · exact ⟨root, holds, rfl⟩

theorem root_foldLevels (levels : List Level) {indices : List Nat}
    (below : ∀ index ∈ indices, 0 < index) (holds : held[0]? = some (some root)) :
    ∃ other, (indices.foldl (Assembly.foldLevel levels) held)[0]? = some (some other) ∧
      other.bare = root.bare := by
  induction indices generalizing held root with
  | nil => exact ⟨root, holds, rfl⟩
  | cons index rest ih =>
      obtain ⟨next, holdsNext, same⟩ := root_foldLevel (below index List.mem_cons_self) holds
      obtain ⟨other, holdsOther, equal⟩ :=
        ih (fun later member => below later (List.mem_cons_of_mem _ member)) holdsNext
      exact ⟨other, holdsOther, equal.trans same⟩

theorem le_of_mem_indicesFrom {least : Nat} (member : index ∈ Assembly.indicesFrom levels least) :
    least ≤ index :=
  (List.mem_range'_1.1 (List.mem_reverse.1 member)).1

/-- Folding finishes the root that is held. -/
theorem flush_whole (plan : Plan) (finished : List Entity) (holds : held[0]? = some (some root)) :
    ∃ other others, Assembly.flush plan 0 ⟨held, finished⟩ = ⟨none :: others, finished ++ [other]⟩ ∧
      other.bare = root.bare := by
  have below : ∀ index ∈ Assembly.indicesFrom plan.levels (max 0 1), 0 < index :=
    fun index => le_of_mem_indicesFrom
  obtain ⟨other, holdsOther, same⟩ := root_foldLevels plan.levels below holds
  cases folded : (Assembly.indicesFrom plan.levels (max 0 1)).foldl
      (Assembly.foldLevel plan.levels) held with
  | nil =>
      rw [folded] at holdsOther
      cases holdsOther
  | cons slot others =>
      rw [folded] at holdsOther
      obtain rfl : slot = some other := Option.some.inj holdsOther
      refine ⟨other, others, ?_, same⟩
      rw [Assembly.flush, folded]
      rfl

/-- Folding from a level below the roots on goes on holding the root. -/
theorem flush_below (plan : Plan) {first : Nat} (below : 0 < first) (finished : List Entity)
    (holds : held[0]? = some (some root)) :
    ∃ other next, Assembly.flush plan first ⟨held, finished⟩ = ⟨next, finished⟩ ∧
      next[0]? = some (some other) ∧ other.bare = root.bare := by
  have least : max first 1 = first := Nat.max_eq_left below
  have later : ∀ index ∈ Assembly.indicesFrom plan.levels first, 0 < index :=
    fun index member => Nat.lt_of_lt_of_le below (le_of_mem_indicesFrom member)
  obtain ⟨other, holdsOther, same⟩ := root_foldLevels plan.levels later holds
  refine ⟨other, _, ?_, holdsOther, same⟩
  rw [Assembly.flush, if_neg (Nat.ne_of_gt below), least]

end Fold

/-- While rows of one root are taken in, the root of one of them is held, which all of them
have. -/
structure Leads (rows : List Slices) (held : Slices) (root entity : Entity) : Prop where
  holds : held[0]? = some (some root)
  bare : root.bare = entity.bare
  read : entity.Read
  drawn : ∃ row ∈ rows, row.at? 0 = some entity
  shared : ∀ row ∈ rows, row.has 0 entity = true

theorem Leads.heads (leads : Leads rows held root entity) {other : Entity}
    (same : other.bare = root.bare) : Heads rows other := by
  obtain ⟨row, member, found⟩ := leads.drawn
  exact ⟨row, member, entity, found, same.trans leads.bare⟩

/-- A row is of the root of any of the rows iff it has something in common with what is held. -/
theorem Leads.sameRoot_iff (leads : Leads rows held root entity)
    (complete : ∀ row ∈ rows, plan.Complete row) {last : Slices} (there : last ∈ rows)
    (completeRow : plan.Complete row) :
    sameRoot last row = true ↔ 0 < Assembly.matchingLevels held row := by
  obtain ⟨current, given⟩ := exists_root completeRow.rooted
  obtain ⟨found, here, same⟩ := has_iff.1 (leads.shared last there)
  have readFound := (complete last there).clean.read 0 found here
  have readCurrent := completeRow.clean.read 0 current given
  have compared : sameRoot last row = found.isSame current := by
    simp only [sameRoot, has, here, given]
  rw [matchingLevels_pos_iff leads.holds given, compared, isSame_congr leads.bare rfl,
    isSame_congr_left leads.read readFound readCurrent same]

/-- A row is held as a whole where nothing of another root is left. -/
theorem leads_hold (complete : plan.Complete row) (assembly : Assembly) :
    ∃ next root entity, Assembly.hold plan 0 row assembly = ⟨next, assembly.finished⟩ ∧
      Leads [row] next root entity := by
  obtain ⟨entity, found⟩ := exists_root complete.rooted
  have read := complete.clean.read 0 entity found
  have has : row.has 0 entity = true := has_iff.2 ⟨entity, found, read.isSame_self⟩
  refine ⟨_, Assembly.withCollections plan 0 entity, entity, rfl, ?_, ?_, read,
    ⟨row, List.mem_singleton_self _, found⟩, List.forall_mem_singleton.2 has⟩
  · have first : row[0]? = some (some entity) := Option.join_eq_some_iff.1 found
    rw [List.take_zero, List.nil_append, List.drop_zero, Assembly.prepared, List.getElem?_mapIdx,
      first]
    rfl
  · rw [withCollections_eq, bare_foldl_withCollection]

/-- A row of the root that is held. -/
theorem Leads.push_same (leads : Leads rows held root entity)
    (complete : ∀ row ∈ rows, plan.Complete row) (completeRow : plan.Complete row)
    (finished : List Entity) (same : 0 < Assembly.matchingLevels held row) :
    ∃ next other, Assembly.push plan row ⟨held, finished⟩ = ⟨next, finished⟩ ∧
      Leads (rows ++ [row]) next other entity := by
  obtain ⟨first, member, found⟩ := leads.drawn
  have sameRow := (leads.sameRoot_iff complete member completeRow).2 same
  have has : row.has 0 entity = true := by
    rw [sameRoot, found] at sameRow
    exact sameRow
  have drawn : ∃ other ∈ rows ++ [row], other.at? 0 = some entity :=
    ⟨first, List.mem_append_left _ member, found⟩
  have shared : ∀ other ∈ rows ++ [row], other.has 0 entity = true :=
    List.forall_mem_append.2 ⟨leads.shared, List.forall_mem_singleton.2 has⟩
  rw [Assembly.push]
  by_cases differs : Assembly.matchingLevels held row < row.length
  · obtain ⟨other, next, flushed, holds, bare⟩ := flush_below plan same finished leads.holds
    refine ⟨_, other, by rw [if_pos differs, flushed, Assembly.hold], ?_,
      bare.trans leads.bare, leads.read, drawn, shared⟩
    have taken : (next.take (Assembly.matchingLevels held row))[0]? = some (some other) := by
      rw [List.getElem?_take_of_lt same, holds]
    exact List.getElem?_append_left (List.getElem?_eq_some_iff.1 taken).1 ▸ taken
  · exact ⟨held, root, by rw [if_neg differs], leads.holds, leads.bare, leads.read, drawn, shared⟩

/-- A row of another root than the one that is held. -/
theorem Leads.push_next (leads : Leads rows held root entity) (completeRow : plan.Complete row)
    (finished : List Entity) (other : Assembly.matchingLevels held row = 0) :
    ∃ done next root entity,
      Assembly.push plan row ⟨held, finished⟩ = ⟨next, finished ++ [done]⟩ ∧ Heads rows done ∧
        Leads [row] next root entity := by
  obtain ⟨done, others, flushed, same⟩ := flush_whole plan finished leads.holds
  obtain ⟨next, root, entity, holds, further⟩ :=
    leads_hold completeRow ⟨none :: others, finished ++ [done]⟩
  have occupied : 0 < row.length := by
    rw [completeRow.length]
    exact Nat.succ_pos _
  refine ⟨done, next, root, entity, ?_, leads.heads same, further⟩
  rw [Assembly.push, other, if_pos occupied, flushed, holds]

/-- The first row with a root. -/
theorem leads_push_start (complete : plan.Complete row) :
    ∃ next root entity, Assembly.push plan row (.start plan) = ⟨next, []⟩ ∧
      Leads [row] next root entity := by
  obtain ⟨next, root, entity, holds, further⟩ := leads_hold complete (.start plan)
  have occupied : 0 < row.length := by
    rw [complete.length]
    exact Nat.succ_pos _
  refine ⟨next, root, entity, ?_, further⟩
  rw [Assembly.push, matchingLevels_start complete, if_pos occupied, flush_start, holds]
  rfl

/-- Taking in further rows: each run gives a root of its own. -/
theorem heads_foldl_push {last : Slices} {current : List Slices} {runsBefore : List (List Slices)}
    {finished : List Entity} (leads : Leads (last :: current).reverse held root entity)
    (complete : ∀ row ∈ (last :: current).reverse, plan.Complete row)
    (completeRows : ∀ row ∈ rows, plan.Complete row)
    (before : List.Forall₂ Heads runsBefore.reverse finished) :
    List.Forall₂ Heads (List.splitBy.loop sameRoot rows last current runsBefore)
      ((pushAll plan rows ⟨held, finished⟩).result plan) := by
  induction rows generalizing last current held root entity runsBefore finished with
  | nil =>
      obtain ⟨done, others, flushed, same⟩ := flush_whole plan finished leads.holds
      rw [pushAll, List.foldl_nil, Assembly.result, flushed, List.splitBy.loop, List.reverse_cons]
      exact List.rel_append before (List.Forall₂.cons (leads.heads same) List.Forall₂.nil)
  | cons row rest ih =>
      have completeRow := completeRows row List.mem_cons_self
      have completeRest : ∀ other ∈ rest, plan.Complete other := fun other member =>
        completeRows other (List.mem_cons_of_mem _ member)
      have lastIn : last ∈ (last :: current).reverse := List.mem_reverse.2 List.mem_cons_self
      have same := leads.sameRoot_iff complete lastIn completeRow
      rw [pushAll, List.foldl_cons]
      by_cases agrees : sameRoot last row = true
      · obtain ⟨next, other, pushed, further⟩ :=
          leads.push_same complete completeRow finished (same.1 agrees)
        rw [← List.reverse_cons] at further
        rw [List.splitBy.loop, agrees, pushed]
        refine ih further ?_ completeRest before
        rw [List.reverse_cons]
        exact List.forall_mem_append.2 ⟨complete, List.forall_mem_singleton.2 completeRow⟩
      · have differs : Assembly.matchingLevels held row = 0 :=
          Nat.eq_zero_of_not_pos fun common => agrees (same.2 common)
        obtain ⟨done, next, root, entity, pushed, heads, further⟩ :=
          leads.push_next completeRow finished differs
        rw [Bool.not_eq_true] at agrees
        rw [List.splitBy.loop, agrees, pushed]
        refine ih further (List.forall_mem_singleton.2 completeRow) completeRest ?_
        rw [List.reverse_cons]
        exact List.rel_append before (List.Forall₂.cons heads List.Forall₂.nil)

/-- Rows that are taken in give a root for each of their runs. -/
theorem heads_pushAll (complete : ∀ row ∈ rows, plan.Complete row) :
    List.Forall₂ Heads (runs rows) ((pushAll plan rows (.start plan)).result plan) := by
  cases rows with
  | nil =>
      rw [pushAll, List.foldl_nil, Assembly.result, flush_start]
      exact List.Forall₂.nil
  | cons row rest =>
      have completeRow := complete row List.mem_cons_self
      obtain ⟨next, root, entity, pushed, leads⟩ := leads_push_start completeRow
      rw [pushAll, List.foldl_cons, pushed]
      exact heads_foldl_push leads (List.forall_mem_singleton.2 completeRow)
        (fun other member => complete other (List.mem_cons_of_mem _ member)) List.Forall₂.nil

/-- The roots of materialized rows are those of the runs of the rows, in their order. -/
theorem heads_materialize {rows : List Row} (free : ∀ row ∈ rows, row.NanFree) (supply : Supply) :
    List.Forall₂ Heads (runs (((drawRows plan rows).run supply).1.filter hasRoot))
      ((plan.materialize rows).run supply).1 := by
  rw [materialize, StateT.run_bind, assemble_run]
  exact heads_pushAll fun slices member => complete_of_mem_drawRows free member

end EntityMapper.Plan
