set_option autoImplicit false

/-! Decimal digits: writing natural numbers and reading runs of digits. -/

namespace EntityMapper.Text

/-- The decimal digits of a natural number. -/
def decimal (n : Nat) : List Char := Nat.toDigits 10 n

/-- A natural number in decimal. -/
def natural (n : Nat) : String := String.ofList (decimal n)

/-- An integer in decimal, negative ones after a minus sign. -/
def integer (i : Int) : String :=
  if i < 0 then String.ofList ('-' :: decimal i.natAbs) else natural i.natAbs

/-- The decimal digits of a number, zeros in front up to `width` of them. -/
def padded (width n : Nat) : List Char :=
  List.replicate (width - (decimal n).length) '0' ++ decimal n

/-- The value of an ASCII decimal digit. -/
def digit? (c : Char) : Option Nat :=
  if '0' ≤ c ∧ c ≤ '9' then some (c.toNat - '0'.toNat) else none

def isDigit (c : Char) : Bool := (digit? c).isSome

/-- The number that a run of digits denotes, other characters counting as zero. -/
def digitsValue (digits : List Char) : Nat :=
  digits.foldl (fun value c => 10 * value + (digit? c).getD 0) 0

/-- Between one and `most` leading digits, as a number, with the rest of the text. -/
def takeNumber (most : Nat) (text : List Char) : Option (Nat × List Char) :=
  let digits := (text.take most).takeWhile isDigit
  if digits.isEmpty then none else some (digitsValue digits, text.drop digits.length)

end EntityMapper.Text
