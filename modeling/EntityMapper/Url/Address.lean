import EntityMapper.Number.Power
import EntityMapper.Text.Digits

set_option autoImplicit false

/-! Numeric addresses of hosts, of 32 and of 128 bits. -/

namespace EntityMapper.Url

open Text

/-- The value of a digit in a base of up to sixteen. -/
def digitIn? (base : Nat) (c : Char) : Option Nat :=
  let digit :=
    if '0' ≤ c ∧ c ≤ '9' then some (c.toNat - '0'.toNat)
    else if 'a' ≤ c ∧ c ≤ 'f' then some (c.toNat - 'a'.toNat + 10)
    else if 'A' ≤ c ∧ c ≤ 'F' then some (c.toNat - 'A'.toNat + 10)
    else none
  digit.filter (· < base)

/-- The number that digits of a base denote. -/
def valueIn? (base : Nat) (digits : List Char) : Option Nat :=
  digits.foldlM (fun value c => (digitIn? base c).map fun digit => base * value + digit) 0

/-- A part of an address of 32 bits: hexadecimal after `0x`, octal after `0`, else decimal. -/
def partValue? : List Char → Option Nat
  | [] => none
  | '0' :: 'x' :: digits => valueIn? 16 digits
  | '0' :: 'X' :: digits => valueIn? 16 digits
  | '0' :: c :: digits => valueIn? 8 (c :: digits)
  | digits => valueIn? 10 digits

/-- The labels without an empty one at the end. -/
def withoutLastEmpty (labels : List (List Char)) : List (List Char) :=
  if labels.getLast? = some [] then labels.dropLast else labels

/-- Whether the last label makes a name a numeric address. -/
def endsInNumber (labels : List (List Char)) : Bool :=
  match (withoutLastEmpty labels).getLast? with
  | none => false
  | some last => (!last.isEmpty && last.all isDigit) || (partValue? last).isSome

/-- Whether labels are an address of 32 bits: up to four parts, of which the last one fills the
bytes that the others leave. -/
def isAddress32 (labels : List (List Char)) : Bool :=
  let parts := withoutLastEmpty labels
  parts.length ≤ 4 &&
    match parts.mapM partValue? with
    | none => false
    | some values =>
        values.dropLast.all (· ≤ 255) &&
          values.getLast?.elim false fun last => last < twoTo (40 - 8 * values.length)

/-! ### Addresses of 128 bits -/

/-- Digits of one byte in decimal, without zeros in front. -/
def takeByte (text : List Char) : Option (List Char) :=
  let digits := text.takeWhile isDigit
  if digits.isEmpty ∨ (1 < digits.length ∧ digits.head? = some '0') ∨ 255 < digitsValue digits then
    none
  else some (text.dropWhile isDigit)

/-- What follows a point at the start. -/
def afterPoint? : List Char → Option (List Char)
  | '.' :: rest => some rest
  | _ => none

/-- Whether a text is an address of 32 bits in four decimal parts. -/
def isDotted (text : List Char) : Bool :=
  let rest : Option (List Char) := do
    let second ← afterPoint? (← takeByte text)
    let third ← afterPoint? (← takeByte second)
    let fourth ← afterPoint? (← takeByte third)
    takeByte fourth
  rest = some []

/-- Whether pieces of up to four hexadecimal digits, from the piece of a number on, make up an
address of 128 bits. `elided` says whether a run of zeros has been left out. -/
def isPieces : Nat → (piece : Nat) → (elided : Bool) → List Char → Bool
  | 0, _, _, _ => false
  | _ + 1, piece, elided, [] => elided || piece = 8
  | fuel + 1, piece, elided, c :: rest =>
      if 8 ≤ piece then false
      else if c = ':' then !elided && isPieces fuel (piece + 1) true rest
      else
        let text := c :: rest
        let digits := (text.take 4).takeWhile fun d => (digitIn? 16 d).isSome
        match text.drop digits.length with
        | [] => isPieces fuel (piece + 1) elided []
        | '.' :: _ =>
            !digits.isEmpty && piece ≤ 6 && isDotted text && (elided || piece = 6)
        | ':' :: after => !after.isEmpty && isPieces fuel (piece + 1) elided after
        | _ => false

/-- Whether a text is an address of 128 bits. -/
def isAddress128 (text : List Char) : Bool :=
  match text with
  | ':' :: ':' :: rest => isPieces (text.length + 1) 1 true rest
  | ':' :: _ => false
  | _ => 2 ≤ text.length && isPieces (text.length + 1) 0 false text

end EntityMapper.Url
