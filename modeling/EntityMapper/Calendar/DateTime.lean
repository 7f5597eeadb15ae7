import EntityMapper.Calendar.Date
import EntityMapper.Number.Power

set_option autoImplicit false

/-! Times of day with a fraction of a second, and days with a time. -/

namespace EntityMapper

open Text

namespace TimeOfDay

/-- Whether the parts name a time of day; the second 60 is a leap second. -/
def isTime (hour minute second nanosecond : Nat) : Bool :=
  hour < 24 && minute < 60 && second < 61 && nanosecond < 1000000000

end TimeOfDay

/-- A time of day. -/
structure TimeOfDay where
  hour : Nat
  minute : Nat
  second : Nat
  nanosecond : Nat
  valid : TimeOfDay.isTime hour minute second nanosecond = true
deriving DecidableEq

namespace TimeOfDay

def midnight : TimeOfDay := ⟨0, 0, 0, 0, rfl⟩

instance : Inhabited TimeOfDay := ⟨midnight⟩

def ofParts? (hour minute second nanosecond : Nat) : Option TimeOfDay :=
  if valid : isTime hour minute second nanosecond = true then
    some ⟨hour, minute, second, nanosecond, valid⟩
  else none

/-- The fraction of a second in three, six or nine digits, nothing for zero. -/
def fraction (nanosecond : Nat) : List Char :=
  if nanosecond = 0 then []
  else if nanosecond % 1000000 = 0 then '.' :: padded 3 (nanosecond / 1000000)
  else if nanosecond % 1000 = 0 then '.' :: padded 6 (nanosecond / 1000)
  else '.' :: padded 9 nanosecond

/-- The characters of `hour:minute:second` with the fraction. -/
def chars (time : TimeOfDay) : List Char :=
  padded 2 time.hour ++ ':' :: padded 2 time.minute ++ ':' :: padded 2 time.second ++
    fraction time.nanosecond

/-- Reads an optional fraction: nine digits count, more are skipped. -/
def takeFraction : List Char → Option (Nat × List Char)
  | '.' :: rest =>
      let digits := rest.takeWhile isDigit
      if digits.isEmpty then none
      else
        let counted := digits.take 9
        some (digitsValue counted * tenTo (9 - counted.length), rest.dropWhile isDigit)
  | rest => some (0, rest)

/-- Reads a time at the start of a text. -/
def take (source : List Char) : Option (TimeOfDay × List Char) := do
  let (hour, afterHour) ← Date.takeField source
  let beforeMinute ← Date.takeMark ':' afterHour
  let (minute, afterMinute) ← Date.takeField beforeMinute
  let beforeSecond ← Date.takeMark ':' afterMinute
  let (second, afterSecond) ← Date.takeField beforeSecond
  let (nanosecond, rest) ← takeFraction afterSecond
  let time ← ofParts? hour minute second nanosecond
  return (time, rest)

end TimeOfDay

/-- A day with a time, in no time zone. -/
structure DateTime where
  date : Date
  time : TimeOfDay
deriving DecidableEq, Inhabited

namespace DateTime

/-- The start of a day. -/
def ofDate (date : Date) : DateTime := ⟨date, .midnight⟩

/-- Day and time with a separator between. -/
def separatedBy (separator : Char) (moment : DateTime) : String :=
  String.ofList (moment.date.chars ++ separator :: moment.time.chars)

/-- Day and time apart, as reports show them. -/
def spaced (moment : DateTime) : String := moment.separatedBy ' '

/-- Day and time with a `T` between, as documents hold them. -/
def text (moment : DateTime) : String := moment.separatedBy 'T'

/-- Reads day and time with blanks or nothing between. -/
def readSpaced? (source : List Char) : Option DateTime := do
  let (date, rest) ← Date.take source
  match TimeOfDay.take rest with
  | some (time, []) => some ⟨date, time⟩
  | _ => none

/-- Reads day and time with a `T` between and an optional `Z` at the end. -/
def readMarked? (source : List Char) : Option DateTime := do
  let (date, afterDate) ← Date.take source
  let rest ← Date.takeMark 'T' afterDate
  match TimeOfDay.take rest with
  | some (time, []) => some ⟨date, time⟩
  | some (time, ['Z']) => some ⟨date, time⟩
  | _ => none

/-- Reads day and time, or a day alone as its start. -/
def read? (source : String) : Option DateTime :=
  (readSpaced? source.toList).or ((readMarked? source.toList).or ((Date.read? source).map ofDate))

end DateTime

end EntityMapper
