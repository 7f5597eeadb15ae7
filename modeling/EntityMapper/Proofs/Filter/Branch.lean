import EntityMapper.Proofs.Filter.Interchange

set_option autoImplicit false

/-! What one branch more does to a filter. A disjunction with a condition is passed by no fewer rows
than before. One without conditions is not written, and asks for something as soon as a branch
does. -/

namespace EntityMapper

open Fragment

namespace Truth

@[simp] theorem both_eq_yes (first second : Truth) :
    both first second = .yes ↔ first = .yes ∧ second = .yes := by
  cases first <;> cases second <;> decide

@[simp] theorem either_eq_yes (first second : Truth) :
    either first second = .yes ↔ first = .yes ∨ second = .yes := by
  cases first <;> cases second <;> decide

instance : Std.Associative either :=
  ⟨fun first second third => by cases first <;> cases second <;> cases third <;> rfl⟩

instance : Std.Commutative either :=
  ⟨fun first second => by cases first <;> cases second <;> rfl⟩

end Truth

/-- A row satisfies a clause if nothing is written or the condition holds. -/
def Statement.Satisfied (truth : Assignment) (statement : Statement) : Prop :=
  statement.text = "" ∨ statement.value? truth = some .yes

namespace Filter

/-- Whether all filters of a group have to hold, or one of them. -/
inductive Grouping where
  | all
  | any

namespace Grouping

def criterion : Grouping → List Filter → Criterion
  | .all => .conjunction
  | .any => .disjunction

def combine : Grouping → Truth → Truth → Truth
  | .all => .both
  | .any => .either

instance (grouping : Grouping) : Std.Associative grouping.combine := by
  cases grouping
  · exact inferInstanceAs (Std.Associative Truth.both)
  · exact inferInstanceAs (Std.Associative Truth.either)

instance (grouping : Grouping) : Std.Commutative grouping.combine := by
  cases grouping
  · exact inferInstanceAs (Std.Commutative Truth.both)
  · exact inferInstanceAs (Std.Commutative Truth.either)

theorem combine_mono (grouping : Grouping) {first second : Truth}
    (keeps : first = .yes → second = .yes) (other : Truth)
    (holds : grouping.combine first other = .yes) : grouping.combine second other = .yes := by
  cases grouping with
  | all =>
      obtain ⟨left, right⟩ := (Truth.both_eq_yes _ _).1 holds
      exact (Truth.both_eq_yes _ _).2 ⟨keeps left, right⟩
  | any => exact (Truth.either_eq_yes _ _).2 (((Truth.either_eq_yes _ _).1 holds).imp_left keeps)

theorem criterionValue?_criterion (truth : Assignment) (grouping : Grouping)
    (filters : List Filter) :
    criterionValue? truth (grouping.criterion filters) =
      groupValue? truth grouping.combine filters := by
  cases grouping <;> rfl

theorem criterionConditions_criterion (grouping : Grouping) (filters : List Filter) :
    criterionConditions (grouping.criterion filters) = groupConditions filters := by
  cases grouping <;> rfl

end Grouping

theorem groupConditions_append (left right : List Filter) :
    groupConditions (left ++ right) = groupConditions left ++ groupConditions right := by
  rw [groupConditions_eq_flatten, List.flatten_append, conditions_append,
    ← groupConditions_eq_flatten, ← groupConditions_eq_flatten]

theorem groupValue?_append (truth : Assignment) (combine : Truth → Truth → Truth)
    [Std.Associative combine] (left right : List Filter) :
    groupValue? truth combine (left ++ right) =
      Option.merge combine (groupValue? truth combine left) (groupValue? truth combine right) := by
  induction left with
  | nil => rw [List.nil_append, groupValue?, Option.merge_none_left]
  | cons filter rest ih =>
      rw [List.cons_append, groupValue?, groupValue?, ih]
      ac_rfl

/-- What is asked less strictly: both are missing or none is, and what holds keeps holding. -/
structure Relaxes (left right : Option Truth) : Prop where
  missing : left = none ↔ right = none
  holds : left = some .yes → right = some .yes

namespace Relaxes

theorem refl (value : Option Truth) : Relaxes value value := ⟨Iff.rfl, id⟩

theorem merge {left right : Option Truth} (relaxes : Relaxes left right) (grouping : Grouping)
    (others : Option Truth) :
    Relaxes (Option.merge grouping.combine left others)
      (Option.merge grouping.combine right others) := by
  obtain ⟨missing, holds⟩ := relaxes
  cases left with
  | none =>
      rw [missing.1 rfl]
      exact refl _
  | some first =>
      cases right with
      | none => exact absurd (missing.2 rfl) nofun
      | some second =>
          have keeps : first = .yes → second = .yes := fun yes =>
            Option.some.inj (holds (congrArg some yes))
          cases others with
          | none => exact ⟨⟨nofun, nofun⟩, holds⟩
          | some other =>
              refine ⟨⟨nofun, nofun⟩, fun holds => congrArg some ?_⟩
              exact grouping.combine_mono keeps other (Option.some.inj holds)

/-- Another branch asks for less. -/
theorem either (value : Option Truth) {others : Option Truth} (present : others ≠ none) :
    Relaxes others (Option.merge .either value others) := by
  obtain ⟨other, rfl⟩ := Option.ne_none_iff_exists'.1 present
  cases value with
  | none => exact refl _
  | some value =>
      refine ⟨⟨nofun, nofun⟩, fun holds => congrArg some ?_⟩
      exact (Truth.either_eq_yes _ _).2 (Or.inr (Option.some.inj holds))

/-- Another conjunct asks for more. -/
theorem both (value : Option Truth) {others : Option Truth} (present : others ≠ none) :
    Relaxes (Option.merge .both value others) others := by
  obtain ⟨other, rfl⟩ := Option.ne_none_iff_exists'.1 present
  cases value with
  | none => exact refl _
  | some value =>
      refine ⟨⟨nofun, nofun⟩, fun holds => congrArg some ?_⟩
      exact ((Truth.both_eq_yes _ _).1 (Option.some.inj holds)).2

end Relaxes

/-- A place for a criterion within a filter: the criteria beside it, and around its filter a group
of others, at any depth. -/
inductive Place where
  | level (before after : List Criterion)
  | within (before after : List Criterion) (grouping : Grouping)
      (left right : List (List Criterion)) (inner : Place)

namespace Place

/-- The filter with a criterion at the place. -/
def put : Place → Criterion → Filter
  | .level before after, criterion => before ++ criterion :: after
  | .within before after grouping left right inner, criterion =>
      before ++ grouping.criterion (left ++ inner.put criterion :: right) :: after

/-- Nothing else in the filter has a condition. -/
def Alone : Place → Prop
  | .level before after => conditions (before ++ after) = []
  | .within before after _ left right inner =>
      inner.Alone ∧ groupConditions (left ++ right) = [] ∧ conditions (before ++ after) = []

/-- The conditions nearest to the place are those of other branches of a disjunction. -/
def AmongBranches : Place → Prop
  | .level _ _ => False
  | .within _ _ grouping left right inner =>
      inner.AmongBranches ∨ grouping = .any ∧ inner.Alone ∧ groupConditions (left ++ right) ≠ []

section Value

variable (truth : Assignment) {first second : Criterion}

private theorem value?_among (before after : Filter) (criterion : Criterion) :
    value? truth (before ++ criterion :: after) =
      Option.merge .both (criterionValue? truth criterion) (value? truth (before ++ after)) := by
  rw [value?_append, value?_append, value?]
  ac_rfl

private theorem groupValue?_among (grouping : Grouping) (left right : List Filter)
    (filter : Filter) :
    groupValue? truth grouping.combine (left ++ filter :: right) =
      Option.merge grouping.combine (value? truth filter)
        (groupValue? truth grouping.combine (left ++ right)) := by
  rw [groupValue?_append, groupValue?_append, groupValue?]
  ac_rfl

theorem value?_put_within (before after : List Criterion) (grouping : Grouping)
    (left right : List (List Criterion)) (inner : Place) (criterion : Criterion) :
    value? truth ((within before after grouping left right inner).put criterion) =
      Option.merge .both
        (Option.merge grouping.combine (value? truth (inner.put criterion))
          (groupValue? truth grouping.combine (left ++ right)))
        (value? truth (before ++ after)) := by
  rw [put, value?_among, grouping.criterionValue?_criterion, groupValue?_among]

variable {truth}

/-- A criterion that is asked less strictly relaxes the whole filter. -/
theorem relaxes_put (place : Place)
    (relaxes : Relaxes (criterionValue? truth first) (criterionValue? truth second)) :
    Relaxes (value? truth (place.put first)) (value? truth (place.put second)) := by
  induction place with
  | level before after =>
      rw [put, put, value?_among, value?_among]
      exact relaxes.merge .all _
  | within before after grouping left right inner ih =>
      rw [value?_put_within, value?_put_within]
      exact (ih.merge grouping _).merge .all _

/-- Where nothing else has a condition, the filter comes to what the criterion comes to. -/
theorem value?_put_alone {place : Place} (alone : place.Alone) (criterion : Criterion) :
    value? truth (place.put criterion) = criterionValue? truth criterion := by
  induction place with
  | level before after =>
      rw [put, value?_among, (value?_eq_none truth _).2 alone, Option.merge_none_right]
  | within before after grouping left right inner ih =>
      obtain ⟨inside, group, level⟩ := alone
      rw [value?_put_within, ih inside, (groupValue?_eq_none truth _ _).2 group,
        (value?_eq_none truth _).2 level, Option.merge_none_right, Option.merge_none_right]

/-- What appears among other branches is one branch more. -/
theorem relaxes_of_amongBranches {place : Place} (among : place.AmongBranches)
    (vacant : criterionValue? truth first = none) (second : Criterion) :
    Relaxes (value? truth (place.put first)) (value? truth (place.put second)) := by
  induction place with
  | level before after => exact absurd among id
  | within before after grouping left right inner ih =>
      rw [value?_put_within, value?_put_within]
      rcases among with inside | ⟨rfl, alone, others⟩
      · exact ((ih inside).merge grouping _).merge .all _
      · have present : groupValue? truth .either (left ++ right) ≠ none :=
          fun missing => others ((groupValue?_eq_none truth _ _).1 missing)
        rw [value?_put_alone alone, value?_put_alone alone, vacant, Option.merge_none_left]
        exact (Relaxes.either _ present).merge .all _

/-- What appears elsewhere is asked in addition to something. -/
theorem relaxes_of_not_amongBranches {place : Place} (apart : ¬ place.AmongBranches)
    (occupied : ¬ place.Alone) (vacant : criterionValue? truth first = none)
    (second : Criterion) :
    Relaxes (value? truth (place.put second)) (value? truth (place.put first)) := by
  induction place with
  | level before after =>
      have present : value? truth (before ++ after) ≠ none :=
        fun missing => occupied ((value?_eq_none truth _).1 missing)
      rw [put, put, value?_among, value?_among, vacant, Option.merge_none_left]
      exact Relaxes.both _ present
  | within before after grouping left right inner ih =>
      obtain ⟨inside, outside⟩ := not_or.1 apart
      rw [value?_put_within, value?_put_within]
      by_cases alone : inner.Alone
      · rw [value?_put_alone alone, value?_put_alone alone, vacant, Option.merge_none_left]
        by_cases group : groupConditions (left ++ right) = []
        · have present : value? truth (before ++ after) ≠ none := fun missing =>
            occupied ⟨alone, group, (value?_eq_none truth _).1 missing⟩
          rw [(groupValue?_eq_none truth _ _).2 group, Option.merge_none_right,
            Option.merge_none_left]
          exact Relaxes.both _ present
        · have present : groupValue? truth grouping.combine (left ++ right) ≠ none :=
            fun missing => group ((groupValue?_eq_none truth _ _).1 missing)
          cases grouping with
          | all => exact (Relaxes.both _ present).merge .all _
          | any => exact absurd ⟨rfl, alone, group⟩ outside
      · exact ((ih inside alone).merge grouping _).merge .all _

end Value

theorem conditions_put_subset (place : Place) {first second : Criterion}
    (subset : criterionConditions first ⊆ criterionConditions second) :
    conditions (place.put first) ⊆ conditions (place.put second) := by
  intro entry
  induction place with
  | level before after =>
      rw [put, put, conditions_append, conditions_append, conditions, conditions]
      simp only [List.mem_append]
      exact Or.imp_right (Or.imp_left (@subset entry))
  | within before after grouping left right inner ih =>
      rw [put, put, conditions_append, conditions_append, conditions, conditions,
        grouping.criterionConditions_criterion, grouping.criterionConditions_criterion,
        groupConditions_append, groupConditions_append, groupConditions, groupConditions]
      simp only [List.mem_append]
      exact Or.imp_right (Or.imp_left (Or.imp_right (Or.imp_left ih)))

end Place

/-- A row satisfies the clause of a filter if the filter comes to nothing or holds. -/
theorem satisfied_iff {filter : Filter} {statement : Statement}
    (success : (clause filter).statement = .ok statement) (truth : Assignment) :
    statement.Satisfied truth ↔ value? truth filter = none ∨ value? truth filter = some .yes := by
  have value := value?_of_clause success truth
  rw [Statement.Satisfied, value]
  refine or_congr_left ⟨fun vacant => ?_, fun missing => ?_⟩
  · -- No condition is read from an empty text.
    obtain ⟨text, params⟩ := statement
    obtain rfl : text = "" := vacant
    rw [← value]
    cases params <;> rfl
  · rw [clause_of_vacant ((value?_eq_none truth filter).1 missing)] at success
    obtain rfl := Except.ok.inj success
    rfl

/-- What comes to no less is satisfied by no fewer rows. -/
theorem Relaxes.satisfied {truth : Assignment} {left right : Filter} {first second : Statement}
    (relaxes : Relaxes (value? truth left) (value? truth right))
    (success : (clause left).statement = .ok first)
    (other : (clause right).statement = .ok second) (satisfied : first.Satisfied truth) :
    second.Satisfied truth :=
  (satisfied_iff other truth).2
    (((satisfied_iff success truth).1 satisfied).imp relaxes.missing.1 relaxes.holds)

/-- A branch more relaxes a disjunction, unless it brings the first condition. -/
theorem relaxes_disjunction_append (truth : Assignment) {branches : List Filter} {branch : Filter}
    (kept : groupConditions branches ≠ [] ∨ conditions branch = []) :
    Relaxes (criterionValue? truth (.disjunction branches))
      (criterionValue? truth (.disjunction (branches ++ [branch]))) := by
  have appended : criterionValue? truth (.disjunction (branches ++ [branch])) =
      Option.merge .either (value? truth branch) (groupValue? truth .either branches) := by
    rw [criterionValue?, groupValue?_append, groupValue?, groupValue?, Option.merge_none_right]
    ac_rfl
  rw [appended, criterionValue?]
  rcases kept with occupied | vacant
  · apply Relaxes.either
    exact fun missing => occupied ((groupValue?_eq_none truth _ _).1 missing)
  · rw [(value?_eq_none truth branch).2 vacant, Option.merge_none_left]
    exact Relaxes.refl _

/-- A disjunction that has a condition, or is among branches that have one, is satisfied by no fewer
rows with one branch more, and one without conditions elsewhere by no more rows. -/
theorem added_branch (place : Place) (branches : List Filter) (branch : Filter)
    (quotable : ∀ entry ∈ conditions (place.put (.disjunction (branches ++ [branch]))),
      ∀ name ∈ entry.1.names, Name.fault? name = none) :
    ∃ fewer more,
      (clause (place.put (.disjunction branches))).statement = .ok fewer ∧
      (clause (place.put (.disjunction (branches ++ [branch])))).statement = .ok more ∧
      (groupConditions branches ≠ [] ∨ conditions branch = [] ∨ place.AmongBranches →
        ∀ truth, fewer.Satisfied truth → more.Satisfied truth) ∧
      (groupConditions branches = [] → ¬ place.AmongBranches →
        ∀ truth, more.Satisfied truth → fewer.Satisfied truth) := by
  have subset : criterionConditions (.disjunction branches) ⊆
      criterionConditions (.disjunction (branches ++ [branch])) := by
    rw [criterionConditions, criterionConditions, groupConditions_append]
    exact List.subset_append_left _ _
  have fewer := statement_of_sound ((fault?_clause_eq_none _).2 fun entry member =>
    quotable entry (place.conditions_put_subset subset member))
  have more := statement_of_sound ((fault?_clause_eq_none _).2 quotable)
  have missing (truth : Assignment) (vacant : groupConditions branches = []) :
      criterionValue? truth (.disjunction branches) = none :=
    (groupValue?_eq_none truth _ _).2 vacant
  refine ⟨_, _, fewer, more, fun kept truth => ?_, fun vacant apart truth satisfied => ?_⟩
  · suffices relaxes : Relaxes (value? truth (place.put (.disjunction branches)))
        (value? truth (place.put (.disjunction (branches ++ [branch])))) from
      relaxes.satisfied fewer more
    by_cases first : groupConditions branches = []
    · rcases kept with other | vacant | among
      · exact absurd first other
      · exact place.relaxes_put (relaxes_disjunction_append truth (Or.inr vacant))
      · exact place.relaxes_of_amongBranches among (missing truth first) _
    · exact place.relaxes_put (relaxes_disjunction_append truth (Or.inl first))
  · by_cases alone : place.Alone
    · apply (satisfied_iff fewer truth).2
      rw [place.value?_put_alone alone]
      exact Or.inl (missing truth vacant)
    · have relaxes := place.relaxes_of_not_amongBranches apart alone (missing truth vacant)
        (.disjunction (branches ++ [branch]))
      exact relaxes.satisfied more fewer satisfied

/-- A branch more beside a range and an empty branch, two groups deep, and the first condition of a
disjunction that is a branch beside another one. -/
theorem added_branch_nested :
    let place : Place :=
      .within [.column (.bare "a") .isNull] [] .all [[]] []
        (.within [] [] .any [[.column (.qualified "t" "b") (.eq (.int 1))]] []
          (.level [] [.disjunction [[]]]))
    let range : Filter := [.column (.bare "c \x60") (.between (.int 1) (.int 2))]
    let branch : Filter := [.conjunction [[.column (.bare "d?") (.inList [])]]]
    (∀ entry ∈ conditions (place.put (.disjunction [[], range, branch])),
        ∀ name ∈ entry.1.names, Name.fault? name = none) ∧
      groupConditions [[], range] ≠ [] ∧ place.AmongBranches ∧
      (∃ fewer more,
        (clause (place.put (.disjunction [[], range]))).statement = .ok fewer ∧
        (clause (place.put (.disjunction [[], range, branch]))).statement = .ok more ∧
        ∀ truth, fewer.Satisfied truth → more.Satisfied truth) ∧
      ∃ fewer more,
        (clause (place.put (.disjunction [[]]))).statement = .ok fewer ∧
        (clause (place.put (.disjunction [[], branch]))).statement = .ok more ∧
        ∀ truth, fewer.Satisfied truth → more.Satisfied truth := by
  intro place range branch
  have quotable : ∀ entry ∈ conditions (place.put (.disjunction [[], range, branch])),
      ∀ name ∈ entry.1.names, Name.fault? name = none := by decide +kernel
  have fewer : ∀ entry ∈ conditions (place.put (.disjunction ([[]] ++ [branch]))),
      ∀ name ∈ entry.1.names, Name.fault? name = none := by decide +kernel
  have occupied : groupConditions [[], range] ≠ [] := List.cons_ne_nil _ _
  have among : place.AmongBranches :=
    Or.inl (Or.inr ⟨rfl, rfl, List.cons_ne_nil _ _⟩)
  obtain ⟨first, second, success, other, keeps, -⟩ :=
    added_branch place [[], range] branch quotable
  obtain ⟨third, fourth, written, further, appears, -⟩ := added_branch place [[]] branch fewer
  exact ⟨quotable, occupied, among, ⟨first, second, success, other, keeps (Or.inl occupied)⟩,
    third, fourth, written, further, appears (Or.inr (Or.inr among))⟩

/-- The first condition of a disjunction that stands alone takes rows away. -/
theorem first_branch_narrows :
    let place : Place := .level [] []
    let branch : Filter := [.column (.bare "id") (.eq (.int 1))]
    ∃ fewer more,
      (clause (place.put (.disjunction []))).statement = .ok fewer ∧
      (clause (place.put (.disjunction ([] ++ [branch])))).statement = .ok more ∧
      ∃ truth, fewer.Satisfied truth ∧ ¬ more.Satisfied truth := by
  intro place branch
  have written : (clause (place.put (.disjunction ([] ++ [branch])))).statement =
      .ok ⟨" WHERE (\x60id\x60 = ?)", [.int 1]⟩ := rfl
  refine ⟨_, _, rfl, written, fun _ _ => .no, Or.inl rfl, fun satisfied => ?_⟩
  rcases (satisfied_iff written _).1 satisfied with missing | holds
  · cases missing
  · cases holds

end Filter

end EntityMapper
