import EntityMapper.Proofs.Plan.Heads

set_option autoImplicit false

/-! The first entity of joined rows is the first one of all their entities: what has been finished
stays as it is, and the first root is finished by the first row of another one. -/

namespace EntityMapper

namespace Assembly

open Plan

variable {plan : Plan} {levels : List Level} {held row : Slices} {assembly : Assembly}

/-- Folding a level below the roots neither holds a root nor drops one. -/
theorem hasRoot_foldLevel {index : Nat} (below : 0 < index) :
    hasRoot (foldLevel levels held index) = hasRoot held := by
  cases held with
  | nil =>
      rw [foldLevel, List.getElem?_nil]
  | cons slot rest =>
      cases slot with
      | some root =>
          have first : (some root :: rest)[0]? = some (some root) := rfl
          obtain ⟨other, holds, -⟩ := root_foldLevel below first
          rw [hasRoot, List.head?_eq_getElem?, holds]
          rfl
      | none =>
          obtain ⟨later, rfl⟩ := Nat.exists_eq_add_one.2 below
          unfold foldLevel
          split
          · split
            · rename_i origin _
              cases origin.parent with
              | zero => rfl
              | succ parent => rfl
            · rfl
          · rfl

theorem hasRoot_foldLevels {indices : List Nat} (below : ∀ index ∈ indices, 0 < index) :
    hasRoot (indices.foldl (foldLevel levels) held) = hasRoot held := by
  induction indices generalizing held with
  | nil => rfl
  | cons index rest ih =>
      rw [List.foldl_cons, ih fun later member => below later (List.mem_cons_of_mem _ member),
        hasRoot_foldLevel (below index List.mem_cons_self)]

/-- Nothing is finished while no root is held. -/
theorem finished_flush_of_rootless (first : Nat) (rootless : hasRoot assembly.held = false) :
    (flush plan first assembly).finished = assembly.finished := by
  have below : ∀ index ∈ indicesFrom plan.levels (max first 1), 0 < index :=
    fun index member => Nat.lt_of_lt_of_le (Nat.le_max_right first 1) (le_of_mem_indicesFrom member)
  have still : hasRoot ((indicesFrom plan.levels (max first 1)).foldl (foldLevel plan.levels)
      assembly.held) = false := (hasRoot_foldLevels below).trans rootless
  unfold flush
  dsimp only
  split
  · split
    · rename_i folded
      rw [folded] at still
      cases still
    · rfl
  · rfl

/-- The root that is held is finished by folding everything, and by that only. -/
theorem finished_flush_of_pos {first : Nat} (below : 0 < first) :
    (flush plan first assembly).finished = assembly.finished := by
  rw [flush, if_neg (Nat.ne_of_gt below)]

theorem exists_finished_flush (plan : Plan) (rooted : hasRoot assembly.held = true) :
    ∃ root, (flush plan 0 assembly).finished = assembly.finished ++ [root] := by
  obtain ⟨root, holds⟩ := exists_root rooted
  obtain ⟨other, others, flushed, -⟩ :=
    flush_whole plan assembly.finished (Option.join_eq_some_iff.1 holds)
  exact ⟨other, by rw [flushed]⟩

/-- What has been finished stays in front of what is finished next. -/
theorem prefix_flush (plan : Plan) (first : Nat) (assembly : Assembly) :
    assembly.finished <+: (flush plan first assembly).finished := by
  cases rooted : hasRoot assembly.held with
  | false =>
      have unchanged : (flush plan first assembly).finished = assembly.finished :=
        finished_flush_of_rootless first rooted
      exact unchanged ▸ List.prefix_rfl
  | true =>
      cases first with
      | succ first =>
          have unchanged : (flush plan (first + 1) assembly).finished = assembly.finished :=
            finished_flush_of_pos (Nat.succ_pos first)
          exact unchanged ▸ List.prefix_rfl
      | zero =>
          obtain ⟨root, equal⟩ := exists_finished_flush plan rooted
          exact ⟨[root], equal.symm⟩

theorem prefix_push (plan : Plan) (row : Slices) (assembly : Assembly) :
    assembly.finished <+: (assembly.push plan row).finished := by
  unfold push
  dsimp only
  split
  · exact prefix_flush plan _ assembly
  · exact List.prefix_rfl

theorem prefix_pushAll (plan : Plan) (rows : List Slices) (assembly : Assembly) :
    assembly.finished <+: (pushAll plan rows assembly).finished := by
  induction rows generalizing assembly with
  | nil => exact List.prefix_rfl
  | cons row rest ih => exact (prefix_push plan row assembly).trans (ih (assembly.push plan row))

/-- A row of the root that is held finishes nothing, nor does the first row with a root. -/
theorem finished_push (same : assembly.startsNext row = false) :
    (assembly.push plan row).finished = assembly.finished := by
  unfold push
  dsimp only
  split
  · change (flush plan _ assembly).finished = assembly.finished
    cases common : matchingLevels assembly.held row with
    | succ levels => exact finished_flush_of_pos (Nat.succ_pos levels)
    | zero =>
        rw [startsNext, common] at same
        exact finished_flush_of_rootless 0 same
  · rfl

/-- A row of another root finishes what would be finished if there were no further row. -/
theorem finished_push_next (plan : Plan) (rooted : hasRoot row = true)
    (next : assembly.startsNext row = true) :
    (assembly.push plan row).finished = assembly.result plan := by
  obtain ⟨differs, -⟩ := (Bool.and_eq_true _ _).mp next
  have none : matchingLevels assembly.held row = 0 := of_decide_eq_true differs
  have occupied : 0 < row.length := by
    cases row with
    | nil => cases rooted
    | cons slot rest => exact Nat.succ_pos _
  rw [push, none, if_pos occupied]
  rfl

end Assembly

namespace Plan

open Assembly

theorem assembleFirst_cons_run (plan : Plan) (row : Row) (rest : List Row) (assembly : Assembly)
    (supply : Supply) :
    (plan.assembleFirst (row :: rest) assembly).run supply =
      (if hasRoot ((drawSlices row plan.levels).run supply).1 then
        if assembly.startsNext ((drawSlices row plan.levels).run supply).1 then return assembly
        else plan.assembleFirst rest
          (assembly.push plan ((drawSlices row plan.levels).run supply).1)
      else plan.assembleFirst rest assembly : Draw Assembly).run
        ((drawSlices row plan.levels).run supply).2 := rfl

/-- While no root is finished, stopping at the next root does not change what comes first. -/
theorem head?_assembleFirst (plan : Plan) (rows : List Row) {assembly : Assembly}
    (fresh : assembly.finished = []) (supply : Supply) :
    (((plan.assembleFirst rows assembly).run supply).1.result plan).head? =
      (((plan.assemble rows assembly).run supply).1.result plan).head? := by
  induction rows generalizing assembly supply with
  | nil => rfl
  | cons row rest ih =>
      rw [assemble_cons_run, assembleFirst_cons_run]
      generalize (drawSlices row plan.levels).run supply = drawn
      obtain ⟨slices, later⟩ := drawn
      dsimp only
      by_cases rooted : hasRoot slices = true
      · rw [if_pos rooted, if_pos rooted]
        by_cases next : assembly.startsNext slices = true
        · -- The root that is held is finished, so that it stays in front of all that follow.
          rw [if_pos next, assemble_run]
          obtain ⟨-, holds⟩ := (Bool.and_eq_true _ _).mp next
          obtain ⟨root, done⟩ := exists_finished_flush plan holds
          rw [fresh, List.nil_append] at done
          have pushed := (finished_push_next plan rooted next).trans done
          obtain ⟨others, all⟩ := (prefix_pushAll plan
            (((drawRows plan rest).run later).1.filter hasRoot) (assembly.push plan slices)).trans
            (prefix_flush plan 0 _)
          rw [pushed, List.singleton_append] at all
          change (flush plan 0 assembly).finished.head? = (flush plan 0 _).finished.head?
          rw [done, ← all]
          rfl
        · rw [if_neg next]
          rw [Bool.not_eq_true] at next
          exact ih ((finished_push next).trans fresh) later
      · rw [if_neg rooted, if_neg rooted]
        exact ih fresh later

/-- The entity that is built up to the first row of another root is the first one of all that the
rows stand for, with everything attached to it and every default made up for it; there is none iff
the rows stand for none. -/
theorem materializeOne_eq_first (plan : Plan) (rows : List Row) (supply : Supply) :
    ((plan.materializeOne rows).run supply).1 = ((plan.materialize rows).run supply).1.head? ∧
      (((plan.materializeOne rows).run supply).1 = none ↔
        ((plan.materialize rows).run supply).1 = []) := by
  have same : ((plan.materializeOne rows).run supply).1 =
      ((plan.materialize rows).run supply).1.head? :=
    head?_assembleFirst plan rows rfl supply
  refine ⟨same, ?_⟩
  rw [same]
  exact List.head?_eq_none_iff

end Plan

end EntityMapper
