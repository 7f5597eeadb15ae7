import EntityMapper.Plan.Resolution
import EntityMapper.Proofs.Outcome

set_option autoImplicit false

/-! What following associations does to the levels of a plan: one level for each association, in
the order in which they are followed, each behind the level of its owners. -/

namespace EntityMapper

open Outcome

namespace Plan

@[simp] theorem length_levels (plan : Plan) : plan.levels.length = plan.others.length + 1 := rfl

theorem levels_zero (plan : Plan) : plan.levels[0]? = some plan.root := rfl

/-- The roots come first, and every other level is attached to one before it. -/
structure Ordered (plan : Plan) : Prop where
  root : plan.root.origin = none
  parents : ∀ (index : Nat) (level : Level), plan.others[index]? = some level →
    ∃ origin, level.origin = some origin ∧ origin.parent ≤ index

end Plan

namespace Resolution

@[simp] theorem plan_reserve (table : String) (resolution : Resolution) :
    (resolution.reserve table).2.plan = resolution.plan := rfl

@[simp] theorem plan_addJoin (join : Join) (resolution : Resolution) :
    (resolution.addJoin join).plan = resolution.plan := rfl

@[simp] theorem others_addLevel (level : Level) (resolution : Resolution) :
    (resolution.addLevel level).plan.others = resolution.plan.others ++ [level] := rfl

@[simp] theorem root_addLevel (level : Level) (resolution : Resolution) :
    (resolution.addLevel level).plan.root = resolution.plan.root := rfl

/-- Joins are found without a change of the levels. -/
theorem plan_link {registry : Registry} {owner target : Level} {association : Association}
    {resolution linked : Resolution}
    (success : resolution.link registry owner target association = .ok linked) :
    linked.plan = resolution.plan := by
  unfold link at success
  split at success
  · rw [← Except.ok.inj success, plan_addJoin]
  · rw [← Except.ok.inj success, plan_addJoin]
  · rw [← Except.ok.inj success, plan_addJoin]
  · obtain ⟨junction, -, success⟩ := bind_eq_ok success
    rw [← Except.ok.inj success, plan_addJoin, plan_addJoin]

/-- The steps of following one association, where all of them succeed. -/
theorem follow_eq_ok {registry : Registry} {parent : Nat} {owner : Level} {name : String}
    {nested : List Populate} {resolution result : Resolution}
    (success : follow registry parent owner (.mk name nested) resolution = .ok result) :
    ∃ association schema linked, associationFor owner.schema name = .ok association ∧
      registry.find association.target = .ok schema ∧
      (resolution.reserve schema.table).2.link registry owner
        ⟨(resolution.reserve schema.table).1, schema, some ⟨parent, association⟩⟩ association =
          .ok linked ∧
      followAll registry resolution.plan.levels.length
        ⟨(resolution.reserve schema.table).1, schema, some ⟨parent, association⟩⟩ nested
        (linked.addLevel
          ⟨(resolution.reserve schema.table).1, schema, some ⟨parent, association⟩⟩) =
          .ok result := by
  rw [follow] at success
  obtain ⟨association, named, success⟩ := bind_eq_ok success
  obtain ⟨schema, found, success⟩ := bind_eq_ok success
  obtain ⟨linked, linking, success⟩ := bind_eq_ok success
  refine ⟨association, schema, linked, named, found, linking, ?_⟩
  rw [plan_link linking] at success
  exact success

theorem followAll_nil {registry : Registry} {parent : Nat} {owner : Level}
    {resolution result : Resolution}
    (success : followAll registry parent owner [] resolution = .ok result) :
    result = resolution := by
  rw [followAll] at success
  exact (Except.ok.inj success).symm

theorem followAll_cons {registry : Registry} {parent : Nat} {owner : Level} {populate : Populate}
    {rest : List Populate} {resolution result : Resolution}
    (success : followAll registry parent owner (populate :: rest) resolution = .ok result) :
    ∃ next, follow registry parent owner populate resolution = .ok next ∧
      followAll registry parent owner rest next = .ok result := by
  rw [followAll] at success
  exact bind_eq_ok success

mutual

/-- Following an association keeps the levels that are there and adds its own behind them. -/
theorem levels_follow {registry : Registry} {parent : Nat} {owner : Level} :
    {populate : Populate} → {resolution result : Resolution} →
    (success : follow registry parent owner populate resolution = .ok result) →
    result.plan.root = resolution.plan.root ∧
      ∃ added, added ≠ [] ∧ result.plan.others = resolution.plan.others ++ added
  | .mk name nested, resolution, result, success => by
      obtain ⟨association, schema, linked, -, -, linking, rest⟩ := follow_eq_ok success
      obtain ⟨root, added, others⟩ := levels_followAll rest
      rw [root_addLevel, plan_link linking, plan_reserve] at root
      rw [others_addLevel, plan_link linking, plan_reserve, List.append_assoc] at others
      exact ⟨root, _, List.cons_ne_nil _ _, others⟩

theorem levels_followAll {registry : Registry} {parent : Nat} {owner : Level} :
    {populates : List Populate} → {resolution result : Resolution} →
    (success : followAll registry parent owner populates resolution = .ok result) →
    result.plan.root = resolution.plan.root ∧
      ∃ added, result.plan.others = resolution.plan.others ++ added
  | [], resolution, result, success => by
      rw [followAll_nil success]
      exact ⟨rfl, [], (List.append_nil _).symm⟩
  | populate :: rest, resolution, result, success => by
      obtain ⟨next, first, others⟩ := followAll_cons success
      obtain ⟨rootFirst, added, -, levelsFirst⟩ := levels_follow first
      obtain ⟨rootRest, more, levelsRest⟩ := levels_followAll others
      refine ⟨rootRest.trans rootFirst, added ++ more, ?_⟩
      rw [levelsRest, levelsFirst, List.append_assoc]

end

/-- Rows are joined iff some association is followed. -/
theorem isJoined_ofPopulates {registry : Registry} {root : EntitySchema}
    {populates : List Populate} {resolution : Resolution}
    (success : ofPopulates registry root populates = .ok resolution) :
    resolution.plan.isJoined = !populates.isEmpty := by
  rw [ofPopulates] at success
  cases populates with
  | nil =>
      rw [followAll_nil success]
      rfl
  | cons populate rest =>
      obtain ⟨next, first, others⟩ := followAll_cons success
      obtain ⟨-, added, nonempty, levelsFirst⟩ := levels_follow first
      obtain ⟨-, more, levelsRest⟩ := levels_followAll others
      rw [Plan.isJoined, levelsRest, levelsFirst]
      simp [nonempty]

theorem root_ofPopulates {registry : Registry} {root : EntitySchema}
    {populates : List Populate} {resolution : Resolution}
    (success : ofPopulates registry root populates = .ok resolution) :
    resolution.plan.root = .root root :=
  (levels_followAll success).1

theorem ordered_addLevel {level : Level} {origin : Origin} {resolution : Resolution}
    (ordered : resolution.plan.Ordered) (attached : level.origin = some origin)
    (before : origin.parent < resolution.plan.levels.length) :
    (resolution.addLevel level).plan.Ordered := by
  refine ⟨ordered.root, fun index other found => ?_⟩
  rw [others_addLevel, List.getElem?_append] at found
  split at found
  · exact ordered.parents index other found
  · rename_i beyond
    rw [Plan.length_levels] at before
    rw [List.getElem?_singleton] at found
    split at found
    · obtain rfl := Option.some.inj found
      exact ⟨origin, attached, by omega⟩
    · cases found

mutual

theorem ordered_follow {registry : Registry} {parent : Nat} {owner : Level} :
    {populate : Populate} → {resolution result : Resolution} →
    (success : follow registry parent owner populate resolution = .ok result) →
    (ordered : resolution.plan.Ordered) → (before : parent < resolution.plan.levels.length) →
    result.plan.Ordered
  | .mk name nested, resolution, result, success, ordered, before => by
      obtain ⟨association, schema, linked, -, -, linking, rest⟩ := follow_eq_ok success
      have same : linked.plan = resolution.plan := (plan_link linking).trans (plan_reserve _ _)
      have extended : (linked.addLevel ⟨(resolution.reserve schema.table).1, schema,
          some ⟨parent, association⟩⟩).plan.Ordered :=
        ordered_addLevel (same ▸ ordered) rfl (same ▸ before)
      refine ordered_followAll rest extended ?_
      rw [Plan.length_levels, Plan.length_levels, others_addLevel, List.length_append, same]
      simp

theorem ordered_followAll {registry : Registry} {parent : Nat} {owner : Level} :
    {populates : List Populate} → {resolution result : Resolution} →
    (success : followAll registry parent owner populates resolution = .ok result) →
    (ordered : resolution.plan.Ordered) → (before : parent < resolution.plan.levels.length) →
    result.plan.Ordered
  | [], resolution, result, success, ordered, before => by
      rw [followAll_nil success]
      exact ordered
  | populate :: rest, resolution, result, success, ordered, before => by
      obtain ⟨next, first, others⟩ := followAll_cons success
      obtain ⟨-, added, -, levelsFirst⟩ := levels_follow first
      refine ordered_followAll others (ordered_follow first ordered before) ?_
      rw [Plan.length_levels] at before ⊢
      rw [levelsFirst, List.length_append]
      omega

end

/-- Every level is attached to one before it. -/
theorem ordered_ofPopulates {registry : Registry} {root : EntitySchema}
    {populates : List Populate} {resolution : Resolution}
    (success : ofPopulates registry root populates = .ok resolution) :
    resolution.plan.Ordered :=
  ordered_followAll success
    ⟨rfl, fun index level found => by rw [start, List.getElem?_nil] at found; cases found⟩
    (Nat.zero_lt_succ _)

end Resolution

end EntityMapper
