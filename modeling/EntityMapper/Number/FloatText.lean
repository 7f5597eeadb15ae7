import EntityMapper.Number.Binary64

set_option autoImplicit false

/-! Floating-point numbers as text: positional notation, the notation of documents, and reading. -/

namespace EntityMapper.Binary64

open Text

/-- Digits before the point, zeros added where the power of ten is positive. -/
def shifted (digits : List Char) (exponent : Nat) : List Char :=
  digits ++ List.replicate exponent '0'

/-- Digits of which the last `places` stand behind a point, with a zero before a leading point. -/
def pointed (digits : List Char) (places : Nat) : List Char :=
  if places < digits.length then
    digits.take (digits.length - places) ++ '.' :: digits.drop (digits.length - places)
  else ['0', '.'] ++ List.replicate (places - digits.length) '0' ++ digits

/-- One digit before the point and the power of ten after an `e`, always with its sign. -/
def scientific (digits : List Char) (power : Int) : List Char :=
  let fraction := digits.drop 1
  digits.take 1 ++ (if fraction.isEmpty then [] else '.' :: fraction) ++
    ['e', if power < 0 then '-' else '+'] ++ decimal power.natAbs

/-- Digits in positional notation; an integral number has no point. -/
def positional (value : Digits) : List Char :=
  if 0 ≤ value.exponent then shifted (decimal value.digits) value.exponent.toNat
  else pointed (decimal value.digits) (-value.exponent).toNat

/-- Digits as documents show them: positional with a point between `1e-5` and `1e16`,
scientific outside. -/
def documentary (value : Digits) : List Char :=
  let digits := decimal value.digits
  let point := Int.ofNat digits.length + value.exponent
  if 0 ≤ value.exponent ∧ point ≤ 16 then shifted digits value.exponent.toNat ++ ['.', '0']
  else if -5 < point ∧ point ≤ 16 then pointed digits (-value.exponent).toNat
  else scientific digits (point - 1)

def signed (negative : Bool) (magnitude : List Char) : String :=
  String.ofList (if negative then '-' :: magnitude else magnitude)

/-- A number in positional notation with the fewest digits that read back. -/
def plain (x : Float) : String :=
  match content x with
  | .nan => "NaN"
  | .infinite negative => signed negative ['i', 'n', 'f']
  | .finite negative significand exponent =>
      signed negative
        (if significand = 0 then ['0'] else positional (shortest significand exponent))

/-- A number as documents show it; none for infinities and NaN, which documents cannot hold. -/
def document? (x : Float) : Option String :=
  match content x with
  | .finite negative significand exponent =>
      some (signed negative
        (if significand = 0 then ['0', '.', '0'] else documentary (shortest significand exponent)))
  | _ => none

/-- Why a text is no floating-point number. -/
inductive Fault where
  | empty
  | invalid
deriving DecidableEq, Repr

namespace Fault

def message : Fault → String
  | .empty => "cannot parse float from empty string"
  | .invalid => "invalid float literal"

end Fault

/-- Decimal notation taken apart: all digits, and how many of them stand behind the point. -/
structure Written where
  digits : List Char
  places : Nat
  rest : List Char

/-- Digits with an optional point among, before or after them. -/
def splitPoint (text : List Char) : Written :=
  let whole := text.takeWhile isDigit
  match text.dropWhile isDigit with
  | '.' :: rest =>
      let fraction := rest.takeWhile isDigit
      ⟨whole ++ fraction, fraction.length, rest.dropWhile isDigit⟩
  | rest => ⟨whole, 0, rest⟩

/-- Digits to the end of the text, at least one. -/
def allDigits? (text : List Char) : Option Nat :=
  if !text.isEmpty && text.all isDigit then some (digitsValue text) else none

/-- The power of ten that ends a text: nothing, or an `e` with an optional sign and digits. -/
def exponent? : List Char → Option Int
  | [] => some 0
  | mark :: rest =>
      if mark = 'e' ∨ mark = 'E' then
        match rest with
        | '-' :: digits => (allDigits? digits).map fun n => -Int.ofNat n
        | '+' :: digits => (allDigits? digits).map Int.ofNat
        | digits => (allDigits? digits).map Int.ofNat
      else none

/-- The words for numbers beyond the finite ones, in letters of either case. -/
def special? (negative : Bool) (text : List Char) : Option Float :=
  match String.ofList (text.map Char.toLower) with
  | "inf" | "infinity" => some (infinity negative)
  | "nan" => some nan
  | _ => none

/-- A number without its sign. -/
def readMagnitude (negative : Bool) (text : List Char) : Except Fault Float :=
  let parts := splitPoint text
  if parts.digits.isEmpty then
    (special? negative text).elim (.error .invalid) .ok
  else
    match exponent? parts.rest with
    | none => .error .invalid
    | some power =>
        .ok (ofDecimal negative (digitsValue parts.digits) (power - Int.ofNat parts.places))

/-- Reads decimal notation or a word for a number that is not finite, after an optional sign. -/
def read (text : String) : Except Fault Float :=
  match text.toList with
  | [] => .error .empty
  | '-' :: rest => readMagnitude true rest
  | '+' :: rest => readMagnitude false rest
  | rest => readMagnitude false rest

end EntityMapper.Binary64
