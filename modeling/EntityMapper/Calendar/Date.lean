import EntityMapper.Text.Blank
import EntityMapper.Text.Digits

set_option autoImplicit false

/-! Days of the Gregorian calendar, written year first. -/

namespace EntityMapper

open Text

namespace Date

def isLeapYear (year : Int) : Bool :=
  year % 4 = 0 && (year % 100 != 0 || year % 400 = 0)

def daysInMonth (year : Int) (month : Nat) : Nat :=
  if month = 2 then (if isLeapYear year then 29 else 28)
  else if month = 4 ∨ month = 6 ∨ month = 9 ∨ month = 11 then 30
  else 31

/-- Whether year, month and day name a day of the years that are kept. -/
def isDay (year : Int) (month day : Nat) : Bool :=
  -262143 ≤ year && year ≤ 262142 && 1 ≤ month && month ≤ 12 &&
    1 ≤ day && day ≤ daysInMonth year month

end Date

/-- A day of the Gregorian calendar. -/
structure Date where
  year : Int
  month : Nat
  day : Nat
  valid : Date.isDay year month day = true
deriving DecidableEq

namespace Date

/-- The first day of the year 1970. -/
def epoch : Date := ⟨1970, 1, 1, rfl⟩

instance : Inhabited Date := ⟨epoch⟩

def ofParts? (year : Int) (month day : Nat) : Option Date :=
  if valid : isDay year month day = true then some ⟨year, month, day, valid⟩ else none

/-- A year of four digits, outside of these with its sign and at least four digits. -/
def yearText (year : Int) : List Char :=
  if 0 ≤ year ∧ year ≤ 9999 then padded 4 year.toNat
  else (if year < 0 then '-' else '+') :: padded 4 year.natAbs

/-- The characters of `year-month-day`. -/
def chars (date : Date) : List Char :=
  yearText date.year ++ '-' :: padded 2 date.month ++ '-' :: padded 2 date.day

def text (date : Date) : String := String.ofList date.chars

/-- Reads a year: any number of digits after a sign, up to four without. -/
def takeYear (source : List Char) : Option (Int × List Char) :=
  match trimStart source with
  | '-' :: rest => (takeNumber rest.length rest).map fun found => (-Int.ofNat found.1, found.2)
  | '+' :: rest => (takeNumber rest.length rest).map fun found => (Int.ofNat found.1, found.2)
  | rest => (takeNumber 4 rest).map fun found => (Int.ofNat found.1, found.2)

/-- Reads one or two digits, after blanks. -/
def takeField (source : List Char) : Option (Nat × List Char) :=
  takeNumber 2 (trimStart source)

/-- Reads one character that has to be there. -/
def takeMark (mark : Char) : List Char → Option (List Char)
  | [] => none
  | c :: rest => if c = mark then some rest else none

/-- Reads a day at the start of a text. -/
def take (source : List Char) : Option (Date × List Char) := do
  let (year, afterYear) ← takeYear source
  let beforeMonth ← takeMark '-' afterYear
  let (month, afterMonth) ← takeField beforeMonth
  let beforeDay ← takeMark '-' afterMonth
  let (day, rest) ← takeField beforeDay
  let date ← ofParts? year month day
  return (date, rest)

/-- Reads a text that is a day and nothing else. -/
def read? (source : String) : Option Date :=
  match take source.toList with
  | some (date, []) => some date
  | _ => none

end Date

end EntityMapper
