import EntityMapper.Number.Power
import EntityMapper.Text.Blank
import EntityMapper.Text.Digits
import Mathlib.Data.List.TakeWhile

set_option autoImplicit false

/-! Digits read back: the digits of a number denote it, with zeros in front of them too, and they
are taken from a text as far as they go. -/

namespace EntityMapper.Text

theorem isDigit_iff (c : Char) : isDigit c = true ↔ c.isDigit = true := by
  have bounds : c.isDigit = true ↔ '0' ≤ c ∧ c ≤ '9' := by
    rw [Char.isDigit, Bool.and_eq_true, decide_eq_true_eq, decide_eq_true_eq]
    rfl
  rw [bounds, isDigit, digit?]
  split <;> simp_all

theorem digit?_of_isDigit {c : Char} (digit : isDigit c = true) :
    digit? c = some (c.toNat - '0'.toNat) := by
  rw [isDigit, digit?] at digit
  rw [digit?]
  split at digit
  · rename_i inside
    rw [if_pos inside]
  · cases digit

theorem isBlank_of_isDigit {c : Char} (digit : isDigit c = true) : isBlank c = false := by
  rw [isDigit_iff, Char.isDigit, Bool.and_eq_true, decide_eq_true_eq, decide_eq_true_eq] at digit
  have least : 48 ≤ c.toNat := UInt32.le_iff_toNat_le.1 digit.1
  have greatest : c.toNat ≤ 57 := UInt32.le_iff_toNat_le.1 digit.2
  -- The blank characters have smaller or greater code points.
  simp only [isBlank, blanks, Ranges.contains_cons, Ranges.contains_nil, Bool.or_false,
    Bool.or_eq_false_iff, Bool.and_eq_false_iff, decide_eq_false_iff_not]
  omega

theorem digitsValue_eq_ofDigitChars {digits : List Char}
    (all : ∀ c ∈ digits, isDigit c = true) :
    digitsValue digits = Nat.ofDigitChars 10 digits 0 := by
  have steps : ∀ value : Nat,
      digits.foldl (fun value c => 10 * value + (digit? c).getD 0) value =
        Nat.ofDigitChars 10 digits value := by
    induction digits with
    | nil => exact fun value => rfl
    | cons c rest ih =>
        obtain ⟨digit, others⟩ := List.forall_mem_cons.1 all
        intro value
        rw [List.foldl_cons, digit?_of_isDigit digit, Nat.ofDigitChars_cons]
        exact ih others _
  exact steps 0

/-- More digits make no number smaller. -/
theorem le_ofDigitChars (digits : List Char) (value : Nat) :
    value ≤ Nat.ofDigitChars 10 digits value := by
  rw [Nat.ofDigitChars_eq_ofDigitChars_zero]
  exact Nat.le_add_right_of_le (Nat.le_mul_of_pos_left value (tenTo_pos digits.length))

section Padded

variable (width n : Nat)

theorem isDigit_of_mem_decimal {c : Char} (member : c ∈ decimal n) : isDigit c = true :=
  (isDigit_iff c).2 (Nat.isDigit_of_mem_toDigits (by decide) (by decide) member)

theorem isDigit_of_mem_padded {c : Char} (member : c ∈ padded width n) : isDigit c = true := by
  rcases List.mem_append.1 member with zero | digit
  · rw [List.eq_of_mem_replicate zero]
    rfl
  · exact isDigit_of_mem_decimal n digit

theorem padded_ne_nil : padded width n ≠ [] := by
  intro empty
  exact Nat.toDigits_ne_nil (List.append_eq_nil_iff.1 empty).2

theorem ofDigitChars_padded : Nat.ofDigitChars 10 (padded width n) 0 = n := by
  rw [padded, Nat.ofDigitChars_append, Nat.ofDigitChars_replicate_zero, Nat.mul_zero, decimal,
    Nat.ofDigitChars_ten_toDigits]

theorem digitsValue_padded : digitsValue (padded width n) = n := by
  rw [digitsValue_eq_ofDigitChars fun c => isDigit_of_mem_padded width n, ofDigitChars_padded]

theorem length_padded : (padded width n).length = max width (decimal n).length := by
  rw [padded, List.length_append, List.length_replicate]
  omega

end Padded

theorem length_padded_of_lt {width n : Nat} (wide : 0 < width) (less : n < tenTo width) :
    (padded width n).length = width := by
  have short : (decimal n).length ≤ width := (Nat.length_toDigits_le_iff (by decide) wide).2 less
  rw [length_padded, Nat.max_eq_left short]

/-- A text that goes on with no digit. -/
def Ends (text : List Char) : Prop := ∀ c rest, text = c :: rest → isDigit c = false

theorem ends_nil : Ends [] := nofun

theorem ends_cons {c : Char} (rest : List Char) (other : isDigit c = false) : Ends (c :: rest) := by
  intro first behind same
  rw [← (List.cons.inj same).1, other]

theorem Ends.takeWhile {text : List Char} (ends : Ends text) : text.takeWhile isDigit = [] := by
  cases text with
  | nil => rfl
  | cons c rest => exact List.takeWhile_cons_of_neg (by simp [ends c rest rfl])

theorem Ends.take {text : List Char} (ends : Ends text) (n : Nat) : Ends (text.take n) := by
  cases n with
  | zero => exact ends_nil
  | succ n =>
      cases text with
      | nil => exact ends_nil
      | cons c rest => exact ends_cons _ (ends c rest rfl)

/-- Padded digits are taken from a text with no further ones. -/
theorem takeNumber_padded {most width n : Nat} {rest : List Char} (ends : Ends rest)
    (fits : (padded width n).length ≤ most) :
    takeNumber most (padded width n ++ rest) = some (n, rest) := by
  have digits : ((padded width n ++ rest).take most).takeWhile isDigit = padded width n := by
    rw [List.take_append, List.take_of_length_le fits,
      List.takeWhile_append_of_pos fun c => isDigit_of_mem_padded width n, (ends.take _).takeWhile,
      List.append_nil]
  have present : (padded width n).isEmpty = false := by
    rw [List.isEmpty_eq_false_iff]
    exact padded_ne_nil width n
  rw [takeNumber, digits, present, if_neg Bool.false_ne_true, digitsValue_padded, List.drop_left]

/-- A text that starts with padded digits starts with a digit. -/
theorem exists_padded_append (width n : Nat) (rest : List Char) :
    ∃ c behind, padded width n ++ rest = c :: behind ∧ isDigit c = true := by
  cases digits : padded width n with
  | nil => exact absurd digits (padded_ne_nil width n)
  | cons c others =>
      exact ⟨c, others ++ rest, rfl, isDigit_of_mem_padded width n (digits ▸ List.mem_cons_self)⟩

theorem trimStart_padded (width n : Nat) (rest : List Char) :
    trimStart (padded width n ++ rest) = padded width n ++ rest := by
  obtain ⟨c, behind, start, digit⟩ := exists_padded_append width n rest
  rw [start, trimStart_cons, isBlank_of_isDigit digit, if_neg Bool.false_ne_true]

end EntityMapper.Text
