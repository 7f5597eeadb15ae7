import EntityMapper.Number.Decimal
import EntityMapper.Proofs.Text.Digits

set_option autoImplicit false

/-! Decimals of integers, and decimals read back from their texts with all their places. -/

namespace EntityMapper.Decimal

open Text

theorem ofParts?_eq_some {negative : Bool} {coefficient scale : Nat} {value : Decimal}
    (made : ofParts? negative coefficient scale = some value) :
    value.negative = negative ∧ value.coefficient = coefficient ∧ value.scale = scale := by
  rw [ofParts?] at made
  split at made
  · obtain rfl := Option.some.inj made
    exact ⟨rfl, rfl, rfl⟩
  · cases made

/-- Every integer of 64 bits has a decimal. -/
theorem ofParts?_ofInt (i : Int64) :
    ofParts? (i.toInt < 0) i.toInt.natAbs 0 = some (ofInt i) := by
  have below := i.toInt_lt
  have above := i.le_toInt
  have fits : i.toInt.natAbs < bound ∧ 0 ≤ greatestScale := by
    rw [bound]
    omega
  rw [ofInt, ofParts?, dif_pos fits, Option.getD_some]

theorem numerator_ofInt (i : Int64) : (ofInt i).numerator = i.toInt := by
  obtain ⟨negative, coefficient, -⟩ := ofParts?_eq_some (ofParts?_ofInt i)
  rw [numerator, negative, coefficient]
  by_cases below : i.toInt < 0
  · rw [decide_eq_true below, if_pos rfl, Int.ofNat_eq_natCast]
    omega
  · rw [decide_eq_false below, if_neg Bool.false_ne_true, Int.ofNat_eq_natCast]
    omega

/-- An integer and its decimal are the same floating-point number. -/
theorem toFloat_ofInt (i : Int64) : (ofInt i).toFloat = Binary64.ofInt i.toInt := by
  have whole := (ofParts?_eq_some (ofParts?_ofInt i)).2.2
  rw [toFloat, if_pos whole, numerator_ofInt]

namespace Scan

/-- Digits that stay in bounds are read one after the other. -/
theorem run_digits (negative pointed started : Bool) (scale : Nat) {digits : List Char}
    (all : ∀ c ∈ digits, isDigit c = true) {coefficient : Nat}
    (less : Nat.ofDigitChars 10 digits coefficient < bound)
    (places : pointed = true → scale + digits.length ≤ greatestScale) (rest : List Char) :
    run negative ⟨pointed, started, coefficient, if pointed then scale else 0⟩ (digits ++ rest) =
      run negative ⟨pointed, started || !digits.isEmpty, Nat.ofDigitChars 10 digits coefficient,
        if pointed then scale + digits.length else 0⟩ rest := by
  induction digits generalizing started coefficient scale with
  | nil =>
      rw [List.nil_append, List.isEmpty_nil, Bool.not_true, Bool.or_false]
      rfl
  | cons c behind ih =>
      obtain ⟨digit, others⟩ := List.forall_mem_cons.1 all
      rw [Nat.ofDigitChars_cons] at less
      have inside := Nat.lt_of_le_of_lt (le_ofDigitChars behind _) less
      have room : ¬ (pointed = true ∧ greatestScale ≤ if pointed then scale else 0) := by
        rintro ⟨rfl, full⟩
        have short := places rfl
        rw [List.length_cons] at short
        rw [if_pos rfl] at full
        omega
      have later : pointed = true → scale + 1 + behind.length ≤ greatestScale := by
        intro past
        have short := places past
        rw [List.length_cons] at short
        omega
      have next := ih true (scale + 1) others less later
      have counted : (if pointed then (if pointed then scale else 0) + 1 else 0) =
          if pointed then scale + 1 else 0 := by cases pointed <;> rfl
      rw [List.cons_append, run, if_neg room, digit?_of_isDigit digit]
      dsimp only
      rw [if_pos inside, counted, next, Nat.ofDigitChars_cons, List.length_cons,
        Nat.add_right_comm, Nat.add_assoc, List.isEmpty_cons, Bool.true_or, Bool.not_false,
        Bool.or_true]

/-- Digits with a point between, which stay in bounds, are read with the places behind the point. -/
theorem run_pointed (negative : Bool) {whole places : List Char} (present : whole ≠ [])
    (all : ∀ c ∈ whole ++ places, isDigit c = true)
    (less : Nat.ofDigitChars 10 (whole ++ places) 0 < bound)
    (short : places.length ≤ greatestScale) :
    run negative start (whole ++ if places.length = 0 then [] else '.' :: places) =
      finish negative ⟨!places.isEmpty, true, Nat.ofDigitChars 10 (whole ++ places) 0,
        places.length⟩ := by
  rw [Nat.ofDigitChars_append] at less ⊢
  obtain ⟨before, behind⟩ := List.forall_mem_append.1 all
  have started : (false || !whole.isEmpty) = true := by
    rw [List.isEmpty_eq_false_iff.2 present]
    rfl
  have first := run_digits negative false false 0 before
    (Nat.lt_of_le_of_lt (le_ofDigitChars places _) less) nofun
  rw [started] at first
  cases places with
  | nil => exact first []
  | cons c others =>
      have second := run_digits negative true true 0 behind less (fun _ => by omega) []
      rw [List.append_nil] at second
      refine (first ('.' :: c :: others)).trans (Eq.trans ?_ (second.trans ?_))
      · rfl
      · rw [Nat.zero_add]
        rfl

end Scan

/-- The text of a decimal: a sign if it is negative, the digits, and a point before the places. -/
theorem exists_toList_text (value : Decimal) : ∃ whole places : List Char,
    whole ++ places = padded (value.scale + 1) value.coefficient ∧ whole ≠ [] ∧
      places.length = value.scale ∧
      value.text.toList = (if value.negative then ['-'] else []) ++
        (whole ++ if places.length = 0 then [] else '.' :: places) := by
  have long : value.scale < (padded (value.scale + 1) value.coefficient).length := by
    rw [length_padded]
    omega
  rw [text, Binary64.signed, String.toList_ofList]
  generalize padded (value.scale + 1) value.coefficient = digits at long
  have length : (digits.drop (digits.length - value.scale)).length = value.scale := by
    rw [List.length_drop]
    omega
  refine ⟨digits.take (digits.length - value.scale), digits.drop (digits.length - value.scale),
    List.take_append_drop _ _, ?_, length, ?_⟩
  · rw [Ne, List.take_eq_nil_iff, ← List.length_eq_zero_iff]
    omega
  · rw [length]
    have split : (if value.scale = 0 then digits else digits.take (digits.length - value.scale) ++
        '.' :: digits.drop (digits.length - value.scale)) =
          digits.take (digits.length - value.scale) ++
            if value.scale = 0 then [] else '.' :: digits.drop (digits.length - value.scale) := by
      split
      · rename_i integral
        rw [integral, Nat.sub_zero, List.take_length, List.append_nil]
      · rfl
    rw [split]
    cases value.negative <;> rfl

/-- The decimal that the text of a decimal stands for: zero has no sign. -/
def spelled (value : Decimal) : Decimal :=
  ⟨value.negative && value.coefficient != 0, value.coefficient, value.scale, value.coefficient_lt,
    value.scale_le⟩

theorem numerator_spelled (value : Decimal) : value.spelled.numerator = value.numerator := by
  rw [numerator, numerator, spelled]
  cases value.negative with
  | false => rfl
  | true =>
      by_cases zero : value.coefficient = 0
      · simp [zero]
      · simp [zero]

theorem same_spelled (value : Decimal) : value.spelled.same value = true := by
  rw [same, numerator_spelled, beq_iff_eq]
  rfl

theorem finish_eq_ok (value : Decimal) (pointed : Bool) :
    Scan.finish value.negative ⟨pointed, true, value.coefficient, value.scale⟩ =
      .ok value.spelled := by
  rw [Scan.finish, if_pos rfl, ofParts?, dif_pos ⟨value.coefficient_lt, value.scale_le⟩]
  rfl

theorem isExponentMark_of_isDigit {c : Char} (digit : isDigit c = true) :
    isExponentMark c = false := by
  rw [isExponentMark, Bool.or_eq_false_iff, decide_eq_false_iff_not, decide_eq_false_iff_not]
  constructor
  · rintro rfl
    cases digit
  · rintro rfl
    cases digit

theorem dropWhile_unmarked (negative : Bool) {whole places : List Char}
    (all : ∀ c ∈ whole ++ places, isDigit c = true) :
    ((if negative then ['-'] else []) ++
      (whole ++ if places.length = 0 then [] else '.' :: places)).dropWhile (!isExponentMark ·) =
        [] := by
  obtain ⟨before, behind⟩ := List.forall_mem_append.1 all
  have unmarked {c : Char} (digit : isDigit c = true) : (!isExponentMark c) = true := by
    rw [isExponentMark_of_isDigit digit]
    rfl
  rw [List.dropWhile_eq_nil_iff]
  intro c member
  rcases List.mem_append.1 member with sign | number
  · split at sign
    · rw [List.mem_singleton.1 sign]
      rfl
    · cases sign
  · rcases List.mem_append.1 number with digit | rest
    · exact unmarked (before c digit)
    · split at rest
      · cases rest
      · rcases List.mem_cons.1 rest with rfl | digit
        · rfl
        · exact unmarked (behind c digit)

/-- Without an exponent, a sign and the rest are read. -/
theorem readPlain_signed (negative : Bool) {magnitude : List Char}
    (start : ∃ c behind, magnitude = c :: behind ∧ isDigit c = true) :
    readPlain ((if negative then ['-'] else []) ++ magnitude) =
      Scan.run negative Scan.start magnitude := by
  obtain ⟨c, behind, rfl, digit⟩ := start
  cases negative with
  | true => rfl
  | false =>
      rw [if_neg Bool.false_ne_true, List.nil_append]
      unfold readPlain
      split
      · rename_i empty
        cases empty
      · rename_i minus
        obtain ⟨rfl, -⟩ := List.cons.inj minus
        cases digit
      · rename_i plus
        obtain ⟨rfl, -⟩ := List.cons.inj plus
        cases digit
      · rfl

/-- A decimal is read back from its text, with all its places. -/
theorem read_text (value : Decimal) : read value.text = .ok value.spelled := by
  obtain ⟨whole, places, digits, present, length, spelling⟩ := value.exists_toList_text
  have all : ∀ c ∈ whole ++ places, isDigit c = true :=
    digits ▸ fun c => isDigit_of_mem_padded _ _
  have number : Nat.ofDigitChars 10 (whole ++ places) 0 = value.coefficient :=
    digits ▸ ofDigitChars_padded _ _
  have run := Scan.run_pointed value.negative present all
    (number.symm ▸ value.coefficient_lt) (length.symm ▸ value.scale_le)
  have start : ∃ c behind, (whole ++ if places.length = 0 then [] else '.' :: places) =
      c :: behind ∧ isDigit c = true := by
    obtain ⟨c, behind, rfl⟩ := List.exists_cons_of_ne_nil present
    exact ⟨c, _, rfl, all c List.mem_cons_self⟩
  have finished : Scan.finish value.negative
      ⟨!places.isEmpty, true, Nat.ofDigitChars 10 (whole ++ places) 0, places.length⟩ =
        .ok value.spelled := by
    rw [number, length, finish_eq_ok]
  rw [read, spelling, dropWhile_unmarked value.negative all]
  exact (readPlain_signed value.negative start).trans (run.trans finished)

end EntityMapper.Decimal
