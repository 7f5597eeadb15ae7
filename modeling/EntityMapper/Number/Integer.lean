import EntityMapper.Text.Digits

set_option autoImplicit false

/-! Reading integers of a bounded range from text. -/

namespace EntityMapper

open Text

/-- Why a text is no integer of the range asked for. -/
inductive IntegerFault where
  | empty
  | invalidDigit
  | tooLarge
  | tooSmall
deriving DecidableEq, Repr

namespace IntegerFault

def message : IntegerFault → String
  | .empty => "cannot parse integer from empty string"
  | .invalidDigit => "invalid digit found in string"
  | .tooLarge => "number too large to fit in target type"
  | .tooSmall => "number too small to fit in target type"

end IntegerFault

namespace Integer

/-- Appends digits to a magnitude of at most `bound`; the first fault from the left counts. -/
def readDigits (bound : Nat) (overflow : IntegerFault) :
    Nat → List Char → Except IntegerFault Nat
  | value, [] => .ok value
  | value, c :: rest =>
      match digit? c with
      | none => .error .invalidDigit
      | some digit =>
          if 10 * value + digit ≤ bound then readDigits bound overflow (10 * value + digit) rest
          else .error overflow

/-- A magnitude of at least one digit. -/
def readMagnitude (bound : Nat) (overflow : IntegerFault) (digits : List Char) :
    Except IntegerFault Nat :=
  if digits.isEmpty then .error .invalidDigit else readDigits bound overflow 0 digits

/-- Reads an optional sign and digits, as an integer from `-least` to `most`; where `least` is
zero, a minus sign counts as an invalid digit. -/
def read (least most : Nat) (text : List Char) : Except IntegerFault Int :=
  match text with
  | [] => .error .empty
  | '+' :: digits => (readMagnitude most .tooLarge digits).map Int.ofNat
  | '-' :: digits =>
      if least = 0 then .error .invalidDigit
      else (readMagnitude least .tooSmall digits).map fun magnitude => -Int.ofNat magnitude
  | digits => (readMagnitude most .tooLarge digits).map Int.ofNat

/-- The least and greatest 64-bit signed integers. -/
def least64 : Int := -9223372036854775808

def greatest64 : Int := 9223372036854775807

/-- Whether an integer fits into 64 signed bits. -/
def fits64 (i : Int) : Bool := least64 ≤ i && i ≤ greatest64

/-- Reads a 64-bit signed integer. -/
def read64 (text : String) : Except IntegerFault Int64 :=
  (read 9223372036854775808 9223372036854775807 text.toList).map Int64.ofInt

/-- Reads a 32-bit unsigned integer. -/
def readUnsigned32 (text : List Char) : Except IntegerFault Nat :=
  (read 0 4294967295 text).map Int.toNat

end Integer

end EntityMapper
