import EntityMapper.Number.FloatText
import EntityMapper.Number.Integer

set_option autoImplicit false

/-! Decimal numbers of 96 bits with up to 28 places behind the point. -/

namespace EntityMapper

open Text

namespace Decimal

/-- The first coefficient that does not fit. -/
def bound : Nat := 79228162514264337593543950336

/-- The greatest number of places behind the point. -/
def greatestScale : Nat := 28

end Decimal

/-- A decimal number; trailing zeros behind the point are kept. -/
structure Decimal where
  negative : Bool
  coefficient : Nat
  scale : Nat
  coefficient_lt : coefficient < Decimal.bound
  scale_le : scale ≤ Decimal.greatestScale
deriving DecidableEq

namespace Decimal

def zero : Decimal := ⟨false, 0, 0, by decide, by decide⟩

instance : Inhabited Decimal := ⟨zero⟩

/-- The decimal of the parts given, if they fit. -/
def ofParts? (negative : Bool) (coefficient scale : Nat) : Option Decimal :=
  if fits : coefficient < bound ∧ scale ≤ greatestScale then
    some ⟨negative, coefficient, scale, fits.1, fits.2⟩
  else none

/-- A decimal whose value is an integer of 64 bits. -/
def ofInt (i : Int64) : Decimal :=
  (ofParts? (i.toInt < 0) i.toInt.natAbs 0).getD zero

/-- The coefficient with the sign of the number. -/
def numerator (value : Decimal) : Int :=
  if value.negative then -Int.ofNat value.coefficient else Int.ofNat value.coefficient

/-- Equality of the numbers denoted, whatever their scales. -/
def same (left right : Decimal) : Bool :=
  left.numerator * tenTo right.scale == right.numerator * tenTo left.scale

/-- Whether nothing but zeros stands behind the point. -/
def isIntegral (value : Decimal) : Bool := value.coefficient % tenTo value.scale = 0

/-- The integral part, without the places behind the point. -/
def truncated (value : Decimal) : Int :=
  Int.tdiv value.numerator (tenTo value.scale)

/-- The number in decimal, with exactly `scale` places behind the point. -/
def text (value : Decimal) : String :=
  let digits := padded (value.scale + 1) value.coefficient
  let magnitude :=
    if value.scale = 0 then digits
    else digits.take (digits.length - value.scale) ++ '.' ::
      digits.drop (digits.length - value.scale)
  Binary64.signed value.negative magnitude

/-- Changes the sign of a floating-point number on demand. -/
private def withSign (negative : Bool) (x : Float) : Float := if negative then -x else x

/-- The floating-point number for a decimal: integral part and fraction are converted apart,
and their sum is rounded to the scale. -/
def toFloat (value : Decimal) : Float :=
  if value.scale = 0 then Binary64.ofInt value.numerator
  else
    let power := tenTo value.scale
    let scale := Binary64.ofNat power
    let whole := Binary64.ofNat (value.coefficient / power)
    let fraction := Binary64.ofNat (value.coefficient % power) / scale
    if fraction == 0.0 then withSign value.negative whole
    else withSign value.negative (Binary64.round ((whole + fraction) * scale) / scale)

/-! ### From floating-point numbers -/

/-- A quotient by ten, a last digit of five or more going up. -/
private def dropDigit (coefficient : Nat) : Nat :=
  coefficient / 10 + (if 5 ≤ coefficient % 10 then 1 else 0)

/-- Turns `2 ^ -steps` into `5 ^ steps` times a power of ten, as far as the coefficient stays
in bounds, and drops bits where it does not. -/
def foldHalves : Nat → Nat × Int → Nat × Int
  | 0, state => state
  | steps + 1, (coefficient, power) =>
      if coefficient % 2 = 0 then foldHalves steps (coefficient / 2, power + 1)
      else if 5 * coefficient < bound then foldHalves steps (5 * coefficient, power)
      else foldHalves steps (coefficient / 2, power + 1)

/-- Drops digits until the power of ten is not below the last place there is. -/
def raisePower : Nat → Nat × Int → Nat × Int
  | 0, state => state
  | steps + 1, (coefficient, power) =>
      if power < -Int.ofNat greatestScale then
        if coefficient / 10 = 0 then (0, 0)
        else raisePower steps (dropDigit coefficient, power + 1)
      else (coefficient, power)

/-- Drops digits behind the point that a floating-point number does not guarantee. -/
def dropExcess : Nat → Nat × Int → Nat × Int
  | 0, state => state
  | steps + 1, (coefficient, power) =>
      if power < 0 ∧ Binary64.hiddenBit ≤ coefficient then
        dropExcess steps (dropDigit coefficient, power + 1)
      else (coefficient, power)

/-- Drops zeros at the end of the places behind the point. -/
def dropZeros : Nat → Nat × Int → Nat × Int
  | 0, state => state
  | steps + 1, (coefficient, power) =>
      if power < 0 ∧ coefficient % 10 = 0 then dropZeros steps (coefficient / 10, power + 1)
      else (coefficient, power)

/-- The decimal for a finite number of the given significand and power of two: exact for whole
multiples of one, in the digits that a floating-point number guarantees for others. -/
def ofBinary? (negative : Bool) (significand : Nat) (exponent : Int) : Option Decimal :=
  if 0 ≤ exponent then ofParts? negative (significand * twoTo exponent.toNat) 0
  else
    let raised := raisePower exponent.natAbs (foldHalves exponent.natAbs (significand, exponent))
    let kept := dropZeros greatestScale (dropExcess greatestScale raised)
    ofParts? negative kept.1 (-kept.2).toNat

/-- The decimal for a floating-point number, with the places that the number guarantees; none
for numbers out of range or not finite. -/
def ofFloat? (x : Float) : Option Decimal :=
  match Binary64.content x with
  | .finite negative significand exponent =>
      if significand = 0 then ofParts? negative 0 0
      else ofBinary? negative significand exponent
  | _ => none

/-! ### From text -/

/-- Why a text is no decimal. -/
inductive Fault where
  | empty
  | noDigits
  | secondPoint
  | leadingSeparator
  | unknownCharacter
  | tooManyDigits
  | roundedOut
  | exponent
  | scaleTooLarge (scale : Nat)
  | outOfRange
deriving DecidableEq, Repr

namespace Fault

def message : Fault → String
  | .empty => "Invalid decimal: empty"
  | .noDigits => "Invalid decimal: no digits found"
  | .secondPoint => "Invalid decimal: two decimal points"
  | .leadingSeparator => "Invalid decimal: must start lead with a number"
  | .unknownCharacter => "Invalid decimal: unknown character"
  | .tooManyDigits => "Invalid decimal: overflow from too many digits"
  | .roundedOut => "Invalid decimal: overflow from mantissa after rounding"
  | .exponent => "Failed to parse"
  | .scaleTooLarge scale =>
      "Scale exceeds the maximum precision allowed: " ++ natural scale ++ " > " ++
        natural greatestScale
  | .outOfRange => "Number exceeds maximum value that can be represented."

/-- What a character that is not allowed in its place counts as. -/
def ofChar (c : Char) : Fault :=
  if c = '.' then .secondPoint else if c = '_' then .leadingSeparator else .unknownCharacter

end Fault

/-- Digits read so far: whether the point is past, whether there was a digit, the coefficient
and the places behind the point. -/
structure Scan where
  pointed : Bool
  started : Bool
  coefficient : Nat
  scale : Nat

namespace Scan

def start : Scan := ⟨false, false, 0, 0⟩

/-- The decimal read; zero has no sign. -/
def finish (negative : Bool) (scan : Scan) : Except Fault Decimal :=
  if scan.started then
    match ofParts? (negative && scan.coefficient != 0) scan.coefficient scan.scale with
    | some value => .ok value
    | none => .error .outOfRange
  else .error .noDigits

/-- Ends the reading at a digit that no longer fits, which decides the rounding. -/
def round (negative : Bool) (scan : Scan) (next : Char) : Except Fault Decimal :=
  let digit :=
    match digit? next with
    | some digit => some digit
    | none => if next = '_' ∨ next = '.' ∧ scan.pointed then some 0 else none
  match digit with
  | none => .error (Fault.ofChar next)
  | some digit =>
      if digit < 5 then finish negative scan
      else if scan.coefficient + 1 < bound then
        finish negative { scan with coefficient := scan.coefficient + 1 }
      else if scan.scale = 0 then .error .roundedOut
      else
        finish negative
          { scan with coefficient := (scan.coefficient + 5) / 10, scale := scan.scale - 1 }

/-- Reads digits, underscores between them, and one point. -/
def run (negative : Bool) : Scan → List Char → Except Fault Decimal
  | scan, [] => finish negative scan
  | scan, c :: rest =>
      if scan.pointed ∧ greatestScale ≤ scan.scale then round negative scan c
      else
        match digit? c with
        | some digit =>
            let coefficient := 10 * scan.coefficient + digit
            if coefficient < bound then
              run negative
                ⟨scan.pointed, true, coefficient, if scan.pointed then scan.scale + 1 else 0⟩ rest
            else if scan.pointed then round negative scan c
            else .error .tooManyDigits
        | none =>
            if c = '.' ∧ !scan.pointed then run negative { scan with pointed := true } rest
            else if c = '_' ∧ scan.started then run negative scan rest
            else .error (Fault.ofChar c)

end Scan

/-- Reads a decimal without an exponent. -/
def readPlain (text : List Char) : Except Fault Decimal :=
  match text with
  | [] => .error .empty
  | '-' :: rest => Scan.run true Scan.start rest
  | '+' :: rest => Scan.run false Scan.start rest
  | _ => Scan.run false Scan.start text

/-- A coefficient without its last `places` digits, the last one dropped deciding the rounding. -/
def withoutPlaces (coefficient : Nat) : Nat → Nat
  | 0 => coefficient
  | places + 1 => dropDigit (coefficient / tenTo places)

/-- The parts given as a decimal, or an error. -/
def fitting (negative : Bool) (coefficient scale : Nat) : Except Fault Decimal :=
  (ofParts? negative coefficient scale).elim (.error .outOfRange) .ok

/-- Moves the point to the left. -/
def scaledDown (base : Decimal) (places : Nat) : Except Fault Decimal :=
  if greatestScale < places then .error (.scaleTooLarge places)
  else if greatestScale < base.scale + places then
    fitting base.negative (withoutPlaces base.coefficient (base.scale + places - greatestScale))
      greatestScale
  else fitting base.negative base.coefficient (base.scale + places)

/-- Moves the point to the right. -/
def scaledUp (base : Decimal) (places : Nat) : Except Fault Decimal :=
  if places ≤ base.scale then fitting base.negative base.coefficient (base.scale - places)
  else if greatestScale < places then .error (.scaleTooLarge places)
  else fitting base.negative (base.coefficient * tenTo (places - base.scale)) 0

def isExponentMark (c : Char) : Bool := c = 'e' || c = 'E'

/-- Reads a decimal, with or without a power of ten behind an `e`. -/
def read (text : String) : Except Fault Decimal :=
  match text.toList.dropWhile (!isExponentMark ·) with
  | [] => readPlain text.toList
  | _ :: exponent => do
      let base ← readPlain (text.toList.takeWhile (!isExponentMark ·))
      match exponent with
      | '-' :: digits =>
          match Integer.readUnsigned32 digits with
          | .ok places => scaledDown base places
          | .error _ => .error .exponent
      | digits =>
          match Integer.readUnsigned32 digits with
          | .ok places => scaledUp base places
          | .error _ => .error .exponent

end Decimal

end EntityMapper
