import EntityMapper.Calendar.DateTime
import EntityMapper.Proofs.Text.Digits

set_option autoImplicit false

/-! Days and moments read back from their texts, whatever the year and the fraction. -/

namespace EntityMapper

open Text

namespace Date

theorem takeYear_minus (source : List Char) : takeYear ('-' :: source) =
    (takeNumber source.length source).map fun found => (-Int.ofNat found.1, found.2) := rfl

theorem takeYear_plus (source : List Char) : takeYear ('+' :: source) =
    (takeNumber source.length source).map fun found => (Int.ofNat found.1, found.2) := rfl

theorem takeYear_yearText (year : Int) {rest : List Char} (ends : Ends rest) :
    takeYear (yearText year ++ rest) = some (year, rest) := by
  unfold yearText
  split
  · rename_i plain
    have less : year.toNat < tenTo 4 := by
      show year.toNat < 10000
      omega
    have short : (padded 4 year.toNat).length ≤ 4 := by
      rw [length_padded_of_lt (by decide) less]
    have number : Int.ofNat year.toNat = year := Int.toNat_of_nonneg plain.1
    obtain ⟨c, behind, start, digit⟩ := exists_padded_append 4 year.toNat rest
    have taken := takeNumber_padded ends short
    rw [takeYear, trimStart_padded]
    -- The text starts with a digit, and so with no sign.
    split
    · rename_i signed
      rw [start] at signed
      obtain ⟨rfl, -⟩ := List.cons.inj signed
      cases digit
    · rename_i signed
      rw [start] at signed
      obtain ⟨rfl, -⟩ := List.cons.inj signed
      cases digit
    · rw [taken, Option.map_some, number]
  · have fits : (padded 4 year.natAbs).length ≤ (padded 4 year.natAbs ++ rest).length := by
      rw [List.length_append]
      omega
    have taken := takeNumber_padded ends fits
    by_cases negative : year < 0
    · have number : -Int.ofNat year.natAbs = year := by
        rw [Int.ofNat_eq_natCast]
        omega
      rw [if_pos negative, List.cons_append, takeYear_minus, taken, Option.map_some, number]
    · have number : Int.ofNat year.natAbs = year := by
        rw [Int.ofNat_eq_natCast]
        omega
      rw [if_neg negative, List.cons_append, takeYear_plus, taken, Option.map_some, number]

theorem takeField_padded {n : Nat} (less : n < 100) {rest : List Char} (ends : Ends rest) :
    takeField (padded 2 n ++ rest) = some (n, rest) := by
  have short : (padded 2 n).length ≤ 2 := by rw [length_padded_of_lt (by decide) less]
  rw [takeField, trimStart_padded, takeNumber_padded ends short]

theorem takeMark_cons (mark : Char) (rest : List Char) :
    takeMark mark (mark :: rest) = some rest := if_pos rfl

theorem parts_lt (date : Date) : date.month < 100 ∧ date.day < 100 := by
  have valid := date.valid
  simp only [isDay, Bool.and_eq_true, decide_eq_true_eq] at valid
  have days : daysInMonth date.year date.month ≤ 31 := by
    unfold daysInMonth
    split
    · split <;> decide
    · split <;> decide
  omega

theorem ofParts?_self (date : Date) : ofParts? date.year date.month date.day = some date :=
  dif_pos date.valid

/-- A day is taken from a text that starts with it and goes on with no digit. -/
theorem take_chars (date : Date) {rest : List Char} (ends : Ends rest) :
    take (date.chars ++ rest) = some (date, rest) := by
  obtain ⟨month, day⟩ := date.parts_lt
  have year := takeYear_yearText date.year
    (ends_cons (padded 2 date.month ++ '-' :: (padded 2 date.day ++ rest)) (rfl : isDigit '-' = _))
  have afterMonth := takeField_padded month
    (ends_cons (padded 2 date.day ++ rest) (rfl : isDigit '-' = _))
  have spelled : date.chars ++ rest = yearText date.year ++
      '-' :: (padded 2 date.month ++ '-' :: (padded 2 date.day ++ rest)) := by
    simp only [chars, List.append_assoc, List.cons_append]
  simp only [take, spelled, year, takeMark_cons, afterMonth, takeField_padded day ends,
    ofParts?_self, Option.bind_eq_bind, Option.bind_some, Option.pure_def]

theorem read?_text (date : Date) : read? date.text = some date := by
  have taken := date.take_chars ends_nil
  rw [List.append_nil] at taken
  rw [read?, text, String.toList_ofList, taken]

end Date

namespace TimeOfDay

theorem parts_lt (time : TimeOfDay) : time.hour < 100 ∧ time.minute < 100 ∧ time.second < 100 ∧
    time.nanosecond < 1000000000 := by
  have valid := time.valid
  simp only [isTime, Bool.and_eq_true, decide_eq_true_eq] at valid
  omega

theorem ofParts?_self (time : TimeOfDay) :
    ofParts? time.hour time.minute time.second time.nanosecond = some time :=
  dif_pos time.valid

/-- A fraction of up to nine digits counts them from the point. -/
theorem takeFraction_padded {width n : Nat} (wide : 0 < width) (most : width ≤ 9)
    (less : n < tenTo width) :
    takeFraction ('.' :: padded width n) = some (n * tenTo (9 - width), []) := by
  have length := length_padded_of_lt wide less
  have digits : (padded width n).takeWhile isDigit = padded width n :=
    List.takeWhile_eq_self_iff.2 fun c => isDigit_of_mem_padded width n
  have behind : (padded width n).dropWhile isDigit = [] :=
    List.dropWhile_eq_nil_iff.2 fun c => isDigit_of_mem_padded width n
  have present : (padded width n).isEmpty = false :=
    List.isEmpty_eq_false_iff.2 (padded_ne_nil width n)
  have counted : (padded width n).take 9 = padded width n :=
    List.take_of_length_le (by omega)
  rw [takeFraction, digits]
  dsimp only
  rw [present, if_neg Bool.false_ne_true, counted, digitsValue_padded, length, behind]

theorem takeFraction_fraction {nanosecond : Nat} (less : nanosecond < 1000000000) :
    takeFraction (fraction nanosecond) = some (nanosecond, []) := by
  unfold fraction
  split
  · rename_i whole
    rw [whole]
    rfl
  · split
    · have milliseconds : nanosecond / 1000000 < tenTo 3 := by
        show nanosecond / 1000000 < 1000
        omega
      have power : tenTo (9 - 3) = 1000000 := rfl
      rw [takeFraction_padded (by decide) (by decide) milliseconds, power]
      congr 2
      omega
    · split
      · have microseconds : nanosecond / 1000 < tenTo 6 := by
          show nanosecond / 1000 < 1000000
          omega
        have power : tenTo (9 - 6) = 1000 := rfl
        rw [takeFraction_padded (by decide) (by decide) microseconds, power]
        congr 2
        omega
      · have power : tenTo (9 - 9) = 1 := rfl
        rw [takeFraction_padded (by decide) (by decide) less, power]
        congr 2
        omega

theorem ends_fraction (nanosecond : Nat) : Ends (fraction nanosecond) := by
  have point : isDigit '.' = false := rfl
  unfold fraction
  split
  · exact ends_nil
  · split
    · exact ends_cons _ point
    · split
      · exact ends_cons _ point
      · exact ends_cons _ point

/-- A time is taken from its text. -/
theorem take_chars (time : TimeOfDay) : take time.chars = some (time, []) := by
  obtain ⟨hour, minute, second, nanosecond⟩ := time.parts_lt
  have afterHour := Date.takeField_padded hour
    (ends_cons (padded 2 time.minute ++ ':' :: (padded 2 time.second ++ fraction time.nanosecond))
      (rfl : isDigit ':' = _))
  have afterMinute := Date.takeField_padded minute
    (ends_cons (padded 2 time.second ++ fraction time.nanosecond) (rfl : isDigit ':' = _))
  have afterSecond := Date.takeField_padded second (ends_fraction time.nanosecond)
  have spelled : time.chars = padded 2 time.hour ++ ':' :: (padded 2 time.minute ++
      ':' :: (padded 2 time.second ++ fraction time.nanosecond)) := by
    simp only [chars, List.append_assoc, List.cons_append]
  simp only [take, spelled, afterHour, Date.takeMark_cons, afterMinute, afterSecond,
    takeFraction_fraction nanosecond, ofParts?_self, Option.bind_eq_bind, Option.bind_some,
    Option.pure_def]

end TimeOfDay

namespace DateTime

/-- A moment is read back from the text that documents hold. -/
theorem read?_text (moment : DateTime) : read? moment.text = some moment := by
  have mark : isDigit 'T' = false := rfl
  have day := moment.date.take_chars (ends_cons moment.time.chars mark)
  have spaced : readSpaced? (moment.date.chars ++ 'T' :: moment.time.chars) = none := by
    simp only [readSpaced?, day, Option.bind_eq_bind, Option.bind_some]
    rfl
  have marked : readMarked? (moment.date.chars ++ 'T' :: moment.time.chars) = some moment := by
    simp only [readMarked?, day, Date.takeMark_cons, moment.time.take_chars, Option.bind_eq_bind,
      Option.bind_some]
  rw [read?, text, separatedBy, String.toList_ofList, spaced, marked, Option.none_or,
    Option.some_or]

/-- The text of a day is read as its start. -/
theorem read?_date_text (date : Date) : read? date.text = some (ofDate date) := by
  have day := date.take_chars ends_nil
  rw [List.append_nil] at day
  have spaced : readSpaced? date.chars = none := by
    simp only [readSpaced?, day, Option.bind_eq_bind, Option.bind_some]
    rfl
  have marked : readMarked? date.chars = none := by
    simp only [readMarked?, day, Option.bind_eq_bind, Option.bind_some]
    rfl
  rw [read?, Date.read?_text, Date.text, String.toList_ofList, spaced, marked, Option.none_or,
    Option.none_or, Option.map_some]

end DateTime

end EntityMapper
