import EntityMapper.Proofs.Migration.History

set_option autoImplicit false

/-! The steps of migrations that are taken over time, and what they have to do with the rows that
are recorded. -/

namespace EntityMapper.Migration

inductive Direction where
  | up
  | down
deriving DecidableEq

/-- A migration is applied or undone, or the attempt fails. -/
structure Step where
  name : String
  direction : Direction
  succeeded : Bool
deriving DecidableEq

/-- The direction of the last step of a migration that succeeded. -/
def latest (steps : List Step) (name : String) : Option Direction :=
  (steps.filter fun step => step.name = name && step.succeeded).getLast?.map Step.direction

/-- No migration is applied twice without being undone in between. -/
def Alternating (steps : List Step) : Prop :=
  ∀ name before between after,
    steps = before ++ ⟨name, .up, true⟩ :: (between ++ ⟨name, .up, true⟩ :: after) →
      ⟨name, .down, true⟩ ∈ between

theorem latest_append (earlier later : List Step) (name : String) :
    latest (earlier ++ later) name = (latest later name).or (latest earlier name) := by
  rw [latest, List.filter_append, List.getLast?_append, Option.map_or]
  rfl

theorem latest_failed (name other : String) (direction : Direction) :
    latest [⟨other, direction, false⟩] name = none := by
  simp [latest]

theorem latest_same (name : String) (direction : Direction) :
    latest [⟨name, direction, true⟩] name = some direction := by
  simp [latest]

theorem latest_other {name other : String} (differs : other ≠ name) (direction : Direction) :
    latest [⟨other, direction, true⟩] name = none := by
  simp [latest, differs]

theorem mem_of_latest {steps : List Step} {name : String} {direction : Direction}
    (last : latest steps name = some direction) : ⟨name, direction, true⟩ ∈ steps := by
  obtain ⟨⟨other, way, succeeded⟩, found, rfl⟩ := Option.map_eq_some_iff.1 last
  obtain ⟨member, counts⟩ := List.mem_filter.1 (List.mem_of_getLast? found)
  simp only [Bool.and_eq_true, decide_eq_true_eq] at counts
  obtain ⟨rfl, rfl⟩ := counts
  exact member

/-- A further step keeps to this, unless it applies what is applied. -/
theorem Alternating.concat {steps : List Step} (alternating : Alternating steps) {step : Step}
    (new : ∀ name, step = ⟨name, .up, true⟩ → latest steps name ≠ some .up) :
    Alternating (steps ++ [step]) := by
  intro name before between after same
  rcases List.eq_nil_or_concat' after with rfl | ⟨others, last, rfl⟩
  · rw [← List.cons_append, ← List.append_assoc] at same
    obtain ⟨rfl, rfl⟩ := List.append_singleton_inj.1 same
    have last := new name rfl
    rw [List.append_cons, latest_append, latest_append, latest_same] at last
    -- What the last step between was, it was not the one up.
    cases found : latest between name with
    | none => exact absurd (by rw [found]; rfl) last
    | some direction =>
        cases direction with
        | up => exact absurd (by rw [found]; rfl) last
        | down => exact mem_of_latest found
  · rw [← List.cons_append, ← List.append_assoc, ← List.cons_append, ← List.append_assoc] at same
    obtain ⟨whole, -⟩ := List.append_singleton_inj.1 same
    rw [List.append_assoc, List.cons_append] at whole
    exact alternating name before between others whole

/-- The names that are applied, in their order, the rows of the table and the steps so far agree:
these names are recorded, and their last successful step was up. -/
structure Agree (applied : List String) (rows : Multiset Recorded) (steps : List Step) : Prop where
  identified : Identified rows
  names : rows.map Recorded.name = applied
  latest : ∀ name, latest steps name = some .up ↔ name ∈ applied
  alternating : Alternating steps

namespace Agree

variable {applied : List String} {rows : Multiset Recorded} {steps : List Step}

theorem mem_iff (agree : Agree applied rows steps) (name : String) :
    name ∈ applied ↔ ∃ row ∈ rows, row.name = name := by
  rw [← Multiset.mem_coe, ← agree.names, Multiset.mem_map]

theorem nothing : Agree [] 0 [] := by
  refine ⟨.zero, rfl, fun name => ⟨fun last => ?_, fun member => ?_⟩, ?_⟩
  · cases last
  · cases member
  · intro name before between after same
    cases before <;> cases same

theorem coe_concat (names : List String) (name : String) :
    ((names ++ [name] : List String) : Multiset String) = name ::ₘ names :=
  Multiset.coe_eq_coe.2 (List.perm_append_singleton name names)

/-- An attempt that fails changes nothing. -/
theorem fails (agree : Agree applied rows steps) (name : String) (direction : Direction) :
    Agree applied rows (steps ++ [⟨name, direction, false⟩]) where
  identified := agree.identified
  names := agree.names
  latest other := by
    rw [latest_append, latest_failed]
    exact agree.latest other
  alternating := agree.alternating.concat fun other same => by cases same

theorem applies (agree : Agree applied rows steps) (row : Recorded)
    (known : row.id.isNull = false) (fresh : ∀ other ∈ rows, other.id ≠ row.id)
    (new : row.name ∉ applied) :
    Agree (applied ++ [row.name]) (row ::ₘ rows) (steps ++ [⟨row.name, .up, true⟩]) where
  identified := agree.identified.cons known fresh
  names := by
    rw [Multiset.map_cons, agree.names, coe_concat]
  latest other := by
    rw [latest_append, List.mem_append, List.mem_singleton]
    by_cases same : row.name = other
    · rw [← same, latest_same]
      exact ⟨fun _ => Or.inr rfl, fun _ => rfl⟩
    · rw [latest_other same, Option.none_or, agree.latest other]
      exact ⟨Or.inl, fun either => either.resolve_right fun equal => same equal.symm⟩
  alternating := agree.alternating.concat fun name same => by
    cases same
    exact fun last => new ((agree.latest _).1 last)

/-- The last name that is applied is undone, and its row removed. -/
theorem undoes {row : Recorded} (agree : Agree (applied ++ [row.name]) (row ::ₘ rows) steps)
    (once : row.name ∉ applied) : Agree applied rows (steps ++ [⟨row.name, .down, true⟩]) where
  identified := agree.identified.of_cons
  names := by
    rw [← Multiset.cons_inj_right row.name, ← Multiset.map_cons, agree.names, coe_concat]
  latest other := by
    rw [latest_append]
    by_cases same : row.name = other
    · rw [← same, latest_same, Option.some_or]
      exact ⟨nofun, fun member => absurd member once⟩
    · rw [latest_other same, Option.none_or, agree.latest other, List.mem_append,
        List.mem_singleton]
      exact ⟨fun either => either.resolve_right fun equal => same equal.symm, Or.inl⟩
  alternating := agree.alternating.concat fun name same => by cases same

end Agree

end EntityMapper.Migration
