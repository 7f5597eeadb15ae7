set_option autoImplicit false

/-! Computations that may fail, taken apart where they succeed. -/

namespace EntityMapper.Outcome

variable {ε ε' α β : Type}

theorem bind_eq_ok {first : Except ε α} {next : α → Except ε β} {result : β}
    (success : (first >>= next) = .ok result) :
    ∃ middle, first = .ok middle ∧ next middle = .ok result := by
  cases first with
  | error fault => cases success
  | ok middle => exact ⟨middle, rfl, success⟩

theorem map_eq_ok {outcome : Except ε α} {change : α → β} {result : β}
    (success : outcome.map change = .ok result) :
    ∃ value, outcome = .ok value ∧ change value = result := by
  cases outcome with
  | error fault => cases success
  | ok value => exact ⟨value, rfl, Except.ok.inj success⟩

theorem mapError_eq_ok {outcome : Except ε α} {rename : ε → ε'} {result : α}
    (success : outcome.mapError rename = .ok result) : outcome = .ok result := by
  cases outcome with
  | error fault => cases success
  | ok value => rw [Except.ok.inj success]

theorem map_mapError (outcome : Except ε α) (rename : ε → ε') (change : α → β) :
    (outcome.mapError rename).map change = (outcome.map change).mapError rename := by
  cases outcome <;> rfl

/-- A change of results passes through computations, if it does through the second. -/
theorem map_bind {α' β' : Type} {first : Except ε α} {next : α → Except ε β}
    {other : α' → Except ε β'} {before : α → α'} {after : β → β'}
    (each : ∀ value, other (before value) = (next value).map after) :
    (first.map before >>= other) = (first >>= next).map after := by
  cases first with
  | error fault => rfl
  | ok value => exact each value

/-- A check of a list succeeds iff it does for each member. -/
theorem forM_eq_ok_iff {check : α → Except ε Unit} {list : List α} :
    list.forM check = .ok () ↔ ∀ member ∈ list, check member = .ok () := by
  induction list with
  | nil => exact iff_of_true rfl fun member none => absurd none List.not_mem_nil
  | cons first rest ih =>
      rw [List.forall_mem_cons, ← ih]
      constructor
      · intro success
        obtain ⟨⟨⟩, here, others⟩ := bind_eq_ok success
        exact ⟨here, others⟩
      · rintro ⟨here, others⟩
        have step : (first :: rest).forM check = (check first >>= fun _ => rest.forM check) := rfl
        rw [step, here]
        exact others

/-- Both computations succeed, with values that are related, or both fail, with faults that are. -/
inductive Matches (faults : ε → ε → Prop) (values : α → β → Prop) : Except ε α → Except ε β → Prop
    where
  | ok {left : α} {right : β} (related : values left right) :
      Matches faults values (.ok left) (.ok right)
  | error {left right : ε} (related : faults left right) :
      Matches faults values (.error left) (.error right)

namespace Matches

variable {γ : Type} {faults : ε → ε → Prop} {values : α → β → Prop} {first : Except ε α}
  {second : Except ε β}

theorem bind {α' β' : Type} {results : α' → β' → Prop} {next : α → Except ε α'}
    {other : β → Except ε β'} (begins : Matches faults values first second)
    (continues : ∀ left right, values left right →
      Matches faults results (next left) (other right)) :
    Matches faults results (first >>= next) (second >>= other) := by
  cases begins with
  | ok related => exact continues _ _ related
  | error related => exact .error related

theorem map {α' β' : Type} {results : α' → β' → Prop} {change : α → α'} {other : β → β'}
    (begins : Matches faults values first second)
    (changes : ∀ left right, values left right → results (change left) (other right)) :
    Matches faults results (first.map change) (second.map other) := by
  cases begins with
  | ok related => exact .ok (changes _ _ related)
  | error related => exact .error related

theorem trans {others : β → γ → Prop} {third : Except ε γ}
    (transitive : ∀ left middle right, faults left middle → faults middle right →
      faults left right)
    (begins : Matches faults values first second) (continues : Matches faults others second third) :
    Matches faults (fun left right => ∃ middle, values left middle ∧ others middle right)
      first third := by
  cases begins with
  | ok related =>
      cases continues with
      | ok further => exact .ok ⟨_, related, further⟩
  | error related =>
      cases continues with
      | error further => exact .error (transitive _ _ _ related further)

theorem imp {others : α → β → Prop} (begins : Matches faults values first second)
    (weaker : ∀ left right, values left right → others left right) :
    Matches faults others first second := by
  cases begins with
  | ok related => exact .ok (weaker _ _ related)
  | error related => exact .error related

theorem refl {values : α → α → Prop} (faulty : ∀ fault, faults fault fault)
    (valued : ∀ value, values value value) (outcome : Except ε α) :
    Matches faults values outcome outcome := by
  cases outcome with
  | ok value => exact .ok (valued value)
  | error fault => exact .error (faulty fault)

theorem eq_of_eq {other : Except ε α} (same : Matches Eq Eq first other) : first = other := by
  cases same with
  | ok related => rw [related]
  | error related => rw [related]

/-- One of the computations succeeds iff the other does. -/
theorem exists_ok_iff (same : Matches faults values first second) :
    (∃ value, first = .ok value) ↔ ∃ value, second = .ok value := by
  cases same with
  | ok related => exact iff_of_true ⟨_, rfl⟩ ⟨_, rfl⟩
  | error related => exact iff_of_false nofun nofun

theorem of_ok {left : α} {right : β} (same : Matches faults values (.ok left) (.ok right)) :
    values left right := by
  cases same with
  | ok related => exact related

end Matches

end EntityMapper.Outcome
