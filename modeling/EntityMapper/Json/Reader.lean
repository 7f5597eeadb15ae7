import EntityMapper.Json.Basic
import EntityMapper.Number.Binary64

set_option autoImplicit false

/-! Reading documents from text. Numbers that are no integers of 64 bits become the product or
quotient of a 64-bit significand and a power of ten, each rounded once. -/

namespace EntityMapper.Json

open Text

/-! ### Numbers -/

/-- The first significand that does not fit into 64 bits. -/
def significandBound : Nat := 18446744073709551616

/-- A significand of 64 bits, the power of ten it counts, and whether digits were left out. -/
structure Significand where
  value : Nat
  exponent : Int
  full : Bool

namespace Significand

/-- Adds a digit before the point; once a digit does not fit, later ones only count. -/
def pushWhole (state : Significand) (digit : Nat) : Significand :=
  let value := 10 * state.value + digit
  if state.full ∨ significandBound ≤ value then ⟨state.value, state.exponent + 1, true⟩
  else ⟨value, state.exponent, false⟩

/-- Adds a digit behind the point; once a digit does not fit, later ones are left out. -/
def pushFraction (state : Significand) (digit : Nat) : Significand :=
  let value := 10 * state.value + digit
  if state.full ∨ significandBound ≤ value then { state with full := true }
  else ⟨value, state.exponent - 1, false⟩

def digitsOf (digits : List Char) : List Nat := digits.filterMap digit?

def ofWhole (digits : List Char) : Significand :=
  (digitsOf digits).foldl pushWhole ⟨0, 0, false⟩

def addFraction (state : Significand) (digits : List Char) : Significand :=
  (digitsOf digits).foldl pushFraction { state with full := false }

end Significand

/-- The product with a power of ten; none where it is too large. -/
def scaled? (value : Float) (exponent : Int) : Option Float :=
  if exponent < -308 then
    if value == 0.0 then some value
    else scaled? (value / Binary64.ofNat (tenTo 308)) (exponent + 308)
  else if 308 < exponent then
    if value == 0.0 then some value else none
  else if exponent < 0 then some (value / Binary64.ofNat (tenTo exponent.natAbs))
  else
    let product := value * Binary64.ofNat (tenTo exponent.natAbs)
    if product.isInf then none else some product
termination_by (-exponent).toNat
decreasing_by omega

def floatOf? (negative : Bool) (significand : Significand) (power : Int) : Option Json :=
  (scaled? (Binary64.ofNat significand.value) (significand.exponent + power)).map fun value =>
    .float (if negative then -value else value)

/-- The power of ten behind an `e`. -/
def takeExponent (source : List Char) : Option (Int × List Char) :=
  match source with
  | '-' :: rest => (takeNumber rest.length rest).map fun found => (-Int.ofNat found.1, found.2)
  | '+' :: rest => (takeNumber rest.length rest).map fun found => (Int.ofNat found.1, found.2)
  | _ => (takeNumber source.length source).map fun found => (Int.ofNat found.1, found.2)

/-- A number with a fraction or a power of ten, from its significand on. -/
def takeScaled (negative : Bool) (significand : Significand) (source : List Char) :
    Option (Json × List Char) :=
  match source with
  | mark :: rest =>
      if mark = 'e' ∨ mark = 'E' then do
        let (power, remaining) ← takeExponent rest
        return (← floatOf? negative significand power, remaining)
      else do return (← floatOf? negative significand 0, source)
  | [] => do return (← floatOf? negative significand 0, source)

/-- A number without fraction and power of ten: an integer where 64 bits hold it. -/
def wholeNumber? (negative : Bool) (significand : Significand) : Option Json :=
  if significand.full then floatOf? negative significand 0
  else if !negative then some (.integer significand.value)
  else if 0 < significand.value ∧ significand.value ≤ 9223372036854775808 then
    some (.integer (-Int.ofNat significand.value))
  else floatOf? negative significand 0

/-- A number without its sign. -/
def takeMagnitude (negative : Bool) (source : List Char) : Option (Json × List Char) :=
  let digits := source.takeWhile isDigit
  let rest := source.dropWhile isDigit
  if digits.isEmpty ∨ (digits.head? = some '0' ∧ 1 < digits.length) then none
  else
    let whole := Significand.ofWhole digits
    match rest with
    | '.' :: behind =>
        let fraction := behind.takeWhile isDigit
        if fraction.isEmpty then none
        else takeScaled negative (whole.addFraction fraction) (behind.dropWhile isDigit)
    | mark :: _ =>
        if mark = 'e' ∨ mark = 'E' then takeScaled negative whole rest
        else do return (← wholeNumber? negative whole, rest)
    | [] => do return (← wholeNumber? negative whole, rest)

def takeNumeric (source : List Char) : Option (Json × List Char) :=
  match source with
  | '-' :: rest => takeMagnitude true rest
  | _ => takeMagnitude false source

/-! ### Strings -/

def hexadecimalDigit? (c : Char) : Option Nat :=
  if '0' ≤ c ∧ c ≤ '9' then some (c.toNat - '0'.toNat)
  else if 'a' ≤ c ∧ c ≤ 'f' then some (c.toNat - 'a'.toNat + 10)
  else if 'A' ≤ c ∧ c ≤ 'F' then some (c.toNat - 'A'.toNat + 10)
  else none

/-- The value of four hexadecimal digits. -/
def unit? (a b c d : Char) : Option Nat := do
  return 4096 * (← hexadecimalDigit? a) + 256 * (← hexadecimalDigit? b) +
    16 * (← hexadecimalDigit? c) + (← hexadecimalDigit? d)

/-- The character that a code unit stands for, if it is no half of a pair. -/
def ofUnit? (unit : Nat) : Option Char :=
  if unit < 0xD800 ∨ 0xDFFF < unit then some (Char.ofNat unit) else none

/-- The character that two code units stand for. -/
def ofPair? (high low : Nat) : Option Char :=
  if 0xD800 ≤ high ∧ high ≤ 0xDBFF ∧ 0xDC00 ≤ low ∧ low ≤ 0xDFFF then
    some (Char.ofNat (0x10000 + 1024 * (high - 0xD800) + (low - 0xDC00)))
  else none

/-- The character that a one-letter escape stands for. -/
def ofLetter? : Char → Option Char
  | '"' => some '"'
  | '\\' => some '\\'
  | '/' => some '/'
  | 'b' => some '\x08'
  | 'f' => some '\x0c'
  | 'n' => some '\n'
  | 'r' => some '\r'
  | 't' => some '\t'
  | _ => none

/-- The first character of a string, escaped or not, and what follows. -/
def takeCharacter : List Char → Option (Char × List Char)
  | '\\' :: 'u' :: a :: b :: c :: d :: rest => do
      let high ← unit? a b c d
      match ofUnit? high with
      | some character => some (character, rest)
      | none =>
          match rest with
          | '\\' :: 'u' :: e :: f :: g :: h :: remaining => do
              return (← ofPair? high (← unit? e f g h), remaining)
          | _ => none
  | '\\' :: letter :: rest => (ofLetter? letter).map fun character => (character, rest)
  | '\\' :: [] => none
  | c :: rest => if c.toNat < 32 then none else some (c, rest)
  | [] => none

/-- The characters up to the closing quote, collected in reverse. -/
def takeCharacters : Nat → List Char → List Char → Option (String × List Char)
  | 0, _, _ => none
  | fuel + 1, collected, source =>
      match source with
      | '"' :: rest => some (String.ofList collected.reverse, rest)
      | _ =>
          match takeCharacter source with
          | some (c, rest) => takeCharacters fuel (c :: collected) rest
          | none => none

/-- A string from behind its opening quote; `fuel` bounds its characters. -/
def takeString (fuel : Nat) (source : List Char) : Option (String × List Char) :=
  takeCharacters fuel [] source

/-! ### Documents -/

/-- The white space between the parts of a document. -/
def isGap (c : Char) : Bool := c = ' ' || c = '\t' || c = '\n' || c = '\r'

def skipGap (source : List Char) : List Char := source.dropWhile isGap

/-- The rest of a text that starts with a word. -/
def takeWord : List Char → List Char → Option (List Char)
  | [], rest => some rest
  | c :: word, d :: rest => if c = d then takeWord word rest else none
  | _ :: _, [] => none

mutual

/-- A document at the start of a text. -/
def take : Nat → List Char → Option (Json × List Char)
  | 0, _ => none
  | fuel + 1, source =>
      match skipGap source with
      | 'n' :: rest => (takeWord ['u', 'l', 'l'] rest).map fun after => (.null, after)
      | 't' :: rest => (takeWord ['r', 'u', 'e'] rest).map fun after => (.bool true, after)
      | 'f' :: rest => (takeWord ['a', 'l', 's', 'e'] rest).map fun after => (.bool false, after)
      | '"' :: rest => (takeString fuel rest).map fun found => (.text found.1, found.2)
      | '[' :: rest =>
          match skipGap rest with
          | ']' :: after => some (.array [], after)
          | _ => (takeItems fuel [] rest).map fun found => (.array found.1, found.2)
      | '\x7b' :: rest =>
          match skipGap rest with
          | '\x7d' :: after => some (.object [], after)
          | _ => (takeMembers fuel [] rest).map fun found => (.object found.1, found.2)
      | rest => takeNumeric rest

/-- Items up to the closing bracket, collected in reverse. -/
def takeItems : Nat → List Json → List Char → Option (List Json × List Char)
  | 0, _, _ => none
  | fuel + 1, collected, source =>
      match take fuel source with
      | none => none
      | some (item, rest) =>
          match skipGap rest with
          | ',' :: after => takeItems fuel (item :: collected) after
          | ']' :: after => some ((item :: collected).reverse, after)
          | _ => none

/-- Members up to the closing brace. -/
def takeMembers : Nat → List (String × Json) → List Char →
    Option (List (String × Json) × List Char)
  | 0, _, _ => none
  | fuel + 1, collected, source =>
      match skipGap source with
      | '"' :: opened =>
          match takeString fuel opened with
          | none => none
          | some (key, beforeColon) =>
              match skipGap beforeColon with
              | ':' :: beforeValue =>
                  match take fuel beforeValue with
                  | none => none
                  | some (value, rest) =>
                      match skipGap rest with
                      | ',' :: after => takeMembers fuel (putMember key value collected) after
                      | '\x7d' :: after => some (putMember key value collected, after)
                      | _ => none
              | _ => none
      | _ => none

end

/-- Reads a text that is one document, with white space around it. -/
def read? (source : String) : Option Json :=
  match take (2 * source.length + 2) source.toList with
  | some (document, rest) => if (skipGap rest).isEmpty then some document else none
  | none => none

end EntityMapper.Json
