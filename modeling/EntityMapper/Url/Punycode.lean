set_option autoImplicit false

/-! Texts of any characters spelled in ASCII, as labels of domain names are: the ASCII characters
first, then the places and code points of the others as numbers of variable length. -/

namespace EntityMapper.Url.Punycode

/-- The value of a digit: letters first, then decimal digits. -/
def digit? (c : Char) : Option Nat :=
  if 'a' ≤ c ∧ c ≤ 'z' then some (c.toNat - 'a'.toNat)
  else if 'A' ≤ c ∧ c ≤ 'Z' then some (c.toNat - 'A'.toNat)
  else if '0' ≤ c ∧ c ≤ '9' then some (c.toNat - '0'.toNat + 26)
  else none

/-- The digit from which on another one follows. -/
def threshold (position bias : Nat) : Nat := min 26 (max 1 (position - bias))

/-- Reads one number: `weight` counts its next digit, `position` grows by 36 with each. -/
def takeDelta (bias : Nat) : Nat → Nat → Nat → List Char → Option (Nat × List Char)
  | _, _, _, [] => none
  | value, weight, position, c :: rest =>
      match digit? c with
      | none => none
      | some digit =>
          let next := value + digit * weight
          let bound := threshold position bias
          if digit < bound then some (next, rest)
          else takeDelta bias next (weight * (36 - bound)) (position + 36) rest

/-- Divides by 35 until a number is at most 455, counting 36 for each division. -/
def scaleDown : Nat → Nat → Nat → Nat × Nat
  | 0, delta, count => (delta, count)
  | fuel + 1, delta, count =>
      if 455 < delta then scaleDown fuel (delta / 35) (count + 36) else (delta, count)

/-- The bias for the number after one that was read. -/
def adapt (delta size : Nat) (first : Bool) : Nat :=
  let damped := if first then delta / 700 else delta / 2
  let (rest, count) := scaleDown damped (damped + damped / size) 0
  count + 36 * rest / (rest + 38)

/-- Puts a character at a place. -/
def insertAt (place : Nat) (c : Char) (text : List Char) : List Char :=
  text.take place ++ c :: text.drop place

/-- Reads numbers to the end, and puts in the character that each stands for. -/
def insertAll : Nat → (code place bias : Nat) → (written : List Char) → List Char →
    Option (List Char)
  | _, _, _, _, written, [] => some written
  | 0, _, _, _, _, _ :: _ => none
  | fuel + 1, code, place, bias, written, source => do
      let (delta, rest) ← takeDelta bias 0 1 36 source
      let size := written.length + 1
      let next := code + (place + delta) / size
      let spot := (place + delta) % size
      if 0x10FFFF < next ∨ 0xD800 ≤ next ∧ next ≤ 0xDFFF then none
      else
        insertAll fuel next (spot + 1) (adapt delta size (place = 0))
          (insertAt spot (Char.ofNat next) written) rest

/-- The ASCII characters before the last hyphen, and the numbers after it. -/
def split (source : List Char) : List Char × List Char :=
  let tail := (source.reverse.takeWhile (· != '-')).reverse
  if tail.length = source.length then ([], source)
  else if tail.length + 1 = source.length then ([], source)
  else (source.take (source.length - tail.length - 1), tail)

/-- The text that an ASCII spelling stands for. -/
def decode (source : List Char) : Option (List Char) :=
  let (basic, numbers) := split source
  insertAll source.length 128 0 72 basic numbers

end EntityMapper.Url.Punycode
