import EntityMapper.Proofs.Number.Decimal
import EntityMapper.Validation.Check
import Mathlib.Tactic.ByContra

set_option autoImplicit false

/-! Checks of a value and of the form that its column gives it. Type and presence cannot tell the
two apart; a rule can, where it reads what the form changes. -/

namespace EntityMapper

/-- What columns of a type make of the values that they admit. -/
inductive DataType.Recast : DataType → Value → Value → Prop where
  | kept (type : DataType) (value : Value) : Recast type value value
  | day (moment : DateTime) : Recast .date (.dateTime moment) (.date moment.date)
  | spelledDay (spelling : String) (day : Date) : Recast .date (.text spelling) (.date day)
  | start (day : Date) : Recast .dateTime (.date day) (.dateTime (.ofDate day))
  | spelledMoment (spelling : String) (moment : DateTime) :
      Recast .dateTime (.text spelling) (.dateTime moment)
  | whole (i : Int64) : Recast .decimal (.int i) (.decimal (.ofInt i))
  | rounded {x : Float} {number : Decimal} (read : Decimal.ofFloat? x = some number) :
      Recast .decimal (.float x) (.decimal number)
  | truth (i : Int64) : Recast .boolean (.int i) (.bool (i != 0))

namespace DataType

variable {type : DataType} {value form : Value}

theorem recast_coerce (admitted : type.admits value = true) :
    type.Recast value (type.coerce value) := by
  cases type with
  | varchar | text | longText => exact .kept _ value
  | tinyInt | smallInt | mediumInt | int | bigInt =>
      cases value with
      | int i => exact .kept _ _
      | _ => cases admitted
  | decimal =>
      cases value with
      | int i => exact .whole i
      | float x =>
          rw [coerce, coerceDecimal]
          cases read : Decimal.ofFloat? x with
          | none => exact .kept _ _
          | some number => exact .rounded read
      | decimal number => exact .kept _ _
      | _ => cases admitted
  | date =>
      cases value with
      | date day => exact .kept _ _
      | dateTime moment => exact .day moment
      | text spelling =>
          obtain ⟨moment, read⟩ := Option.isSome_iff_exists.1 admitted
          rw [coerce, coerceDate, read]
          exact .spelledDay spelling moment.date
      | _ => cases admitted
  | dateTime =>
      cases value with
      | date day => exact .start day
      | dateTime moment => exact .kept _ _
      | text spelling =>
          obtain ⟨moment, read⟩ := Option.isSome_iff_exists.1 admitted
          rw [coerce, coerceDateTime, read]
          exact .spelledMoment spelling moment
      | _ => cases admitted
  | boolean =>
      cases value with
      | bool flag => exact .kept _ _
      | int i => exact .truth i
      | _ => cases admitted

theorem Recast.admits (recast : type.Recast value form) (admitted : type.admits value = true) :
    type.admits form = true := by
  cases recast with
  | kept => exact admitted
  | _ => rfl

theorem Recast.isNull (recast : type.Recast value form) : form.isNull = value.isNull := by
  cases recast <;> rfl

/-- The number of a value changes only where a floating-point number is rounded to a decimal. -/
theorem Recast.float? (recast : type.Recast value form) :
    form.float? = value.float? ∨ form.float? = none ∨
      ∃ x number, type = .decimal ∧ value = .float x ∧ form = .decimal number ∧
        Decimal.ofFloat? x = some number := by
  cases recast with
  | kept => exact Or.inl rfl
  | whole i => exact Or.inl (congrArg some (Decimal.toFloat_ofInt i))
  | @rounded x number read => exact Or.inr (Or.inr ⟨x, number, rfl, rfl, rfl, read⟩)
  | _ => exact Or.inr (Or.inl rfl)

end DataType

namespace Rule

/-- A rule on texts, which breaks for all other values. -/
def isTextual : Rule → Bool
  | .email | .url | .pattern _ => true
  | _ => false

/-- A value that keeps a rule has a form that breaks it. -/
inductive Lapses (type : DataType) : Value → Rule → Prop where
  /-- A day or a moment is no longer the text that spells it. -/
  | spelled (spelling : String) {rule : Rule} (calendar : type = .date ∨ type = .dateTime)
      (textual : rule.isTextual = true) : Lapses type (.text spelling) rule
  /-- A list names the value, and not its form. -/
  | unlisted {value : Value} {values : List Value}
      (listed : ∃ allowed ∈ values, allowed.same value = true)
      (missing : ∀ allowed ∈ values, allowed.same (type.coerce value) = false) :
      Lapses type value (.oneOf values)
  /-- The decimal of a floating-point number is below a least value that the number reaches. -/
  | below {x least : Float} {number : Decimal} (decimal : type = .decimal)
      (read : Decimal.ofFloat? x = some number) (less : number.toFloat < least) :
      Lapses type (.float x) (.min least)
  /-- The decimal of a floating-point number is above a greatest value that the number keeps. -/
  | above {x greatest : Float} {number : Decimal} (decimal : type = .decimal)
      (read : Decimal.ofFloat? x = some number) (more : number.toFloat > greatest) :
      Lapses type (.float x) (.max greatest)

variable {type : DataType} {rule : Rule} {value : Value}

theorem check_of_isTextual (textual : rule.isTextual = true) (unspelled : value.text? = none) :
    rule.check value = some .invalidValue := by
  cases rule with
  | email | url | pattern form =>
      cases value with
      | text spelling => cases unspelled
      | _ => rfl
  | _ => cases textual

theorem check_oneOf (values : List Value) (value : Value) :
    (Rule.oneOf values).check value = none ↔ ∃ allowed ∈ values, allowed.same value = true := by
  rw [check, ← List.any_eq_true]
  cases values.any fun allowed => allowed.same value <;> simp

theorem check_min (least : Float) {number : Float} (numeric : value.float? = some number) :
    (Rule.min least).check value = none ↔ ¬ number < least := by
  rw [check, numeric, Option.bind_some]
  by_cases less : number < least <;> simp [less]

theorem check_max (greatest : Float) {number : Float} (numeric : value.float? = some number) :
    (Rule.max greatest).check value = none ↔ ¬ number > greatest := by
  rw [check, numeric, Option.bind_some]
  by_cases more : number > greatest <;> simp [more]

/-- A rule that lapses is broken. -/
theorem Lapses.breaks (lapses : rule.Lapses type value) (admitted : type.admits value = true) :
    rule.check (type.coerce value) ≠ none := by
  intro passes
  cases lapses with
  | spelled spelling calendar textual =>
      have unspelled : (type.coerce (.text spelling)).text? = none := by
        rcases calendar with rfl | rfl
        all_goals
          obtain ⟨moment, read⟩ := Option.isSome_iff_exists.1 admitted
          simp only [DataType.coerce, DataType.coerceDate, DataType.coerceDateTime, read]
          rfl
      cases (check_of_isTextual textual unspelled).symm.trans passes
  | unlisted listed missing =>
      obtain ⟨allowed, member, same⟩ := (check_oneOf _ _).1 passes
      cases same.symm.trans (missing allowed member)
  | @below x least number decimal read less =>
      subst decimal
      rw [DataType.coerce, DataType.coerceDecimal, read] at passes
      exact (check_min least rfl).1 passes less
  | @above x greatest number decimal read more =>
      subst decimal
      rw [DataType.coerce, DataType.coerceDecimal, read] at passes
      exact (check_max greatest rfl).1 passes more

/-- A rule that a value keeps, and its form does not, lapses. -/
theorem lapses_of_check (admitted : type.admits value = true) (kept : rule.check value = none)
    (broken : rule.check (type.coerce value) ≠ none) : rule.Lapses type value := by
  have recast := DataType.recast_coerce admitted
  cases rule with
  | minLength least | maxLength greatest =>
      refine absurd ?_ broken
      generalize type.coerce value = form at recast
      cases recast with
      | kept => exact kept
      | _ => rfl
  | min least =>
      generalize type.coerce value = form at recast broken
      rcases recast.float? with same | numberless | ⟨x, number, rfl, rfl, rfl, read⟩
      · rw [check, same] at broken
        exact absurd kept broken
      · rw [check, numberless] at broken
        exact absurd rfl broken
      · rw [Ne, check_min least rfl, not_not] at broken
        exact .below rfl read broken
  | max greatest =>
      generalize type.coerce value = form at recast broken
      rcases recast.float? with same | numberless | ⟨x, number, rfl, rfl, rfl, read⟩
      · rw [check, same] at broken
        exact absurd kept broken
      · rw [check, numberless] at broken
        exact absurd rfl broken
      · rw [Ne, check_max greatest rfl, not_not] at broken
        exact .above rfl read broken
  | email | url | pattern form =>
      generalize type.coerce value = form at recast broken
      cases recast with
      | kept => cases broken kept
      | spelledDay spelling => exact .spelled spelling (Or.inl rfl) rfl
      | spelledMoment spelling => exact .spelled spelling (Or.inr rfl) rfl
      | _ => cases kept
  | oneOf values =>
      refine .unlisted ((check_oneOf values value).1 kept) fun allowed member => ?_
      by_contra same
      rw [Bool.not_eq_false] at same
      exact broken ((check_oneOf values _).2 ⟨allowed, member, same⟩)

/-- A rule that a value keeps is kept by the form of the value too, unless it lapses. -/
theorem check_coerce (rule : Rule) (admitted : type.admits value = true)
    (kept : rule.check value = none) :
    rule.check (type.coerce value) = none ↔ ¬ rule.Lapses type value := by
  constructor
  · exact fun passes lapses => lapses.breaks admitted passes
  · intro whole
    by_contra broken
    exact whole (lapses_of_check admitted kept broken)

theorem not_lapses_null (rule : Rule) : ¬ rule.Lapses type .null := by
  intro lapses
  cases lapses with
  | unlisted listed missing =>
      obtain ⟨allowed, member, same⟩ := listed
      rw [← type.coerce_null, missing allowed member] at same
      cases same

end Rule

namespace Column

theorem check_eq_none_iff (column : Column) {value : Value} (present : value.isNull = false)
    (mode : WriteMode) : column.check (some value) mode = none ↔
      column.type.admits value = true ∧ ∀ rule ∈ column.rules, rule.check value = none := by
  have given : (some value).filter (fun given => !given.isNull) = some value := by
    rw [Option.filter_some, present]
    rfl
  rw [check, given]
  dsimp only
  cases column.type.admits value with
  | false => simp
  | true => simp [List.findSome?_eq_none_iff]

/-- The form of a value that passes the check passes it too, unless a rule lapses. -/
theorem check_coerce {column : Column} {value : Value} {mode : WriteMode}
    (passed : column.check (some value) mode = none) :
    column.check (some (column.type.coerce value)) mode = none ↔
      ∀ rule ∈ column.rules, ¬ rule.Lapses column.type value := by
  cases absent : value.isNull with
  | true =>
      obtain rfl := (Value.isNull_iff value).1 absent
      rw [DataType.coerce_null]
      exact ⟨fun _ rule _ => Rule.not_lapses_null rule, fun _ => passed⟩
  | false =>
      obtain ⟨admitted, kept⟩ := (column.check_eq_none_iff absent mode).1 passed
      have recast := DataType.recast_coerce admitted
      have present : (column.type.coerce value).isNull = false := recast.isNull.trans absent
      rw [column.check_eq_none_iff present, and_iff_right (recast.admits admitted)]
      refine forall₂_congr fun rule member => ?_
      exact rule.check_coerce admitted (kept rule member)

end Column

end EntityMapper
