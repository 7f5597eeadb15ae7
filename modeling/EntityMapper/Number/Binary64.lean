import EntityMapper.Number.Power
import EntityMapper.Text.Digits

set_option autoImplicit false

/-! Binary floating-point numbers of 64 bits as exact ratios: decoding, rounding to the nearest,
and the shortest decimal that reads back. -/

namespace EntityMapper.Binary64

open Text

/-- What the bits of a number stand for; a finite one is `significand * 2 ^ exponent`. -/
inductive Content where
  | nan
  | infinite (negative : Bool)
  | finite (negative : Bool) (significand : Nat) (exponent : Int)
deriving DecidableEq, Repr

/-- The exponent of the least significant bit of the smallest numbers. -/
def leastExponent : Int := -1074

def hiddenBit : Nat := 4503599627370496

/-- The content of 64 bits: a sign, eleven bits of exponent and 52 of significand. -/
def contentOfBits (bits : Nat) : Content :=
  let negative := 9223372036854775808 ≤ bits
  let biased := bits / hiddenBit % 2048
  let fraction := bits % hiddenBit
  if biased = 2047 then
    if fraction = 0 then .infinite negative else .nan
  else if biased = 0 then .finite negative fraction leastExponent
  else .finite negative (fraction + hiddenBit) (Int.ofNat biased - 1075)

def content (x : Float) : Content := contentOfBits x.toBits.toNat

namespace Content

def isFinite : Content → Bool
  | .finite .. => true
  | _ => false

def isNan : Content → Bool
  | .nan => true
  | _ => false

/-- What is denoted: all zeros are one. -/
def denoted : Content → Content
  | .finite _ 0 _ => .finite false 0 leastExponent
  | content => content

@[simp] theorem isNan_denoted (content : Content) : content.denoted.isNan = content.isNan := by
  unfold denoted
  split <;> rfl

/-- Equality of what is denoted; NaN equals nothing. -/
def same (left right : Content) : Bool := !left.isNan && left.denoted = right.denoted

theorem same_self (content : Content) : content.same content = !content.isNan := by
  simp [same]

theorem same_comm (left right : Content) : left.same right = right.same left := by
  by_cases equal : left.denoted = right.denoted
  · have agree : left.isNan = right.isNan := by
      rw [← isNan_denoted left, ← isNan_denoted right, equal]
    simp [same, equal, agree]
  · simp [same, equal, Ne.symm equal]

theorem same_trans {left middle right : Content} (first : left.same middle = true)
    (second : middle.same right = true) : left.same right = true := by
  simp only [same, Bool.and_eq_true, decide_eq_true_eq] at first second ⊢
  exact ⟨first.1, first.2.trans second.2⟩

end Content

/-- Equality of the numbers denoted: the zeros are equal, and NaN equals nothing. -/
def same (left right : Float) : Bool := (content left).same (content right)

def isFinite (x : Float) : Bool := (content x).isFinite

/-- Numerator and denominator of `n * 2 ^ exponent`. -/
def scaleTwo (n : Nat) (exponent : Int) : Nat × Nat :=
  (n * twoTo exponent.toNat, twoTo (-exponent).toNat)

/-- The nearest integer to a quotient, a half going to the even neighbour. -/
def divideToEven (numerator denominator : Nat) : Nat :=
  let quotient := numerator / denominator
  let twice := 2 * (numerator % denominator)
  if twice < denominator then quotient
  else if denominator < twice then quotient + 1
  else if quotient % 2 = 0 then quotient else quotient + 1

/-- The nearest integer to a quotient, a half going up. -/
def divideHalfUp (numerator denominator : Nat) : Nat :=
  (2 * numerator + denominator) / (2 * denominator)

/-- The greatest `e` with `2 ^ e` at most the quotient of two positive numbers. -/
def floorLog (numerator denominator : Nat) : Int :=
  let guess := Int.ofNat numerator.log2 - Int.ofNat denominator.log2
  if denominator * twoTo guess.toNat ≤ numerator * twoTo (-guess).toNat then guess else guess - 1

/-- The bits of the number nearest to a quotient, ties going to an even significand. -/
def bitsOfRatio (negative : Bool) (numerator denominator : Nat) : Nat :=
  let sign := if negative then 9223372036854775808 else 0
  if numerator = 0 then sign
  else
    let exponent := max (floorLog numerator denominator - 52) leastExponent
    let significand :=
      divideToEven (numerator * twoTo (-exponent).toNat) (denominator * twoTo exponent.toNat)
    let bits := (exponent - leastExponent).toNat * hiddenBit + significand
    sign + min bits (2047 * hiddenBit)

/-- The number nearest to a quotient. -/
def ofRatio (negative : Bool) (numerator denominator : Nat) : Float :=
  Float.ofBits (UInt64.ofNat (bitsOfRatio negative numerator denominator))

def ofNat (n : Nat) : Float := ofRatio false n 1

def ofInt (i : Int) : Float := ofRatio (i < 0) i.natAbs 1

def nan : Float := Float.ofBits 0x7ff8000000000000

def infinity (negative : Bool) : Float :=
  Float.ofBits (if negative then 0xfff0000000000000 else 0x7ff0000000000000)

/-- The number nearest to `digits * 10 ^ exponent`, for exponents of any size. -/
def ofDecimal (negative : Bool) (digits : Nat) (exponent : Int) : Float :=
  if digits = 0 then ofRatio negative 0 1
  else if 310 < exponent then infinity negative
  else if exponent + Int.ofNat (decimal digits).length < -330 then ofRatio negative 0 1
  else ofRatio negative (digits * tenTo exponent.toNat) (tenTo (-exponent).toNat)

/-- The nearest integer to a magnitude, a half going away from zero. -/
def roundMagnitude (significand : Nat) (exponent : Int) : Nat :=
  let ratio := scaleTwo significand exponent
  divideHalfUp ratio.1 ratio.2

/-- The nearest integral number, a half going away from zero. -/
def round (x : Float) : Float :=
  match content x with
  | .finite negative significand exponent =>
      ofRatio negative (roundMagnitude significand exponent) 1
  | _ => x

/-- Decimal digits with the power of ten that their last one counts. -/
structure Digits where
  digits : Nat
  exponent : Int
deriving DecidableEq, Repr

namespace Digits

/-- Drops up to `fuel` zeros at the end. -/
def trimZeros : Nat → Digits → Digits
  | 0, value => value
  | fuel + 1, value =>
      if value.digits % 10 = 0 then
        trimZeros fuel ⟨value.digits / 10, value.exponent + 1⟩
      else value

end Digits

/-- The greatest `e` with `10 ^ e` at most the quotient of two positive numbers. -/
def decimalLog (numerator denominator : Nat) : Int :=
  if denominator ≤ numerator then
    Int.ofNat ((decimal (numerator / denominator)).length - 1)
  else
    let places := (decimal (denominator / numerator)).length
    if numerator * tenTo (places - 1) = denominator then 1 - Int.ofNat places
    else -Int.ofNat places

/-- The least number that rounds to `significand * 2 ^ exponent`, in quarters of its last bit:
below a power of two the neighbours are nearer. It belongs to the others iff the significand is
even, as does the greatest one. -/
def lowerQuarter (significand : Nat) (exponent : Int) : Nat :=
  if significand = hiddenBit ∧ leastExponent < exponent then 4 * significand - 1
  else 4 * significand - 2

/-- The multiple of `10 ^ power` nearest to the number, if it reads back as the number. -/
def onGrid? (significand : Nat) (exponent : Int) (power : Int) : Option Nat :=
  let quarter := exponent - 2
  let unit := twoTo quarter.toNat * tenTo (-power).toNat
  let step := tenTo power.toNat * twoTo (-quarter).toNat
  let value := 4 * significand * unit
  let closed := significand % 2 = 0
  let below := value / step
  let fitsBelow :=
    let least := lowerQuarter significand exponent * unit
    if closed then least ≤ below * step else least < below * step
  let fitsAbove :=
    let most := (4 * significand + 2) * unit
    if closed then (below + 1) * step ≤ most else (below + 1) * step < most
  if fitsBelow ∧ (¬ fitsAbove ∨ divideToEven value step = below) then some below
  else if fitsAbove then some (below + 1)
  else none

/-- The coarsest of the grids from `count` digits up that holds a decimal reading back. -/
def searchGrids (significand : Nat) (exponent : Int) (log : Int) : Nat → Nat → Digits
  | 0, _ => ⟨significand, exponent⟩
  | fuel + 1, count =>
      let power := log + 1 - Int.ofNat count
      match onGrid? significand exponent power with
      | some digits => ⟨digits, power⟩
      | none => searchGrids significand exponent log fuel (count + 1)

/-- The fewest decimal digits that read back as a positive number, the nearest of those. -/
def shortest (significand : Nat) (exponent : Int) : Digits :=
  let ratio := scaleTwo significand exponent
  let found := searchGrids significand exponent (decimalLog ratio.1 ratio.2) 17 1
  found.trimZeros 20

end EntityMapper.Binary64
