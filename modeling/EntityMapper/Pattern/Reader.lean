import EntityMapper.Number.Integer
import EntityMapper.Pattern.Basic
import EntityMapper.Pattern.Letters
import EntityMapper.Pattern.Numerals
import EntityMapper.Text.Blank

set_option autoImplicit false

/-! Reading patterns from their notation: literals, classes, groups, alternatives, repetitions,
anchors and flags. -/

namespace EntityMapper.Pattern

open Text

/-- How the parts of a pattern are read. -/
structure Flags where
  anyCase : Bool
  multiLine : Bool
  dotAll : Bool
  allScripts : Bool
  spaced : Bool
  carriage : Bool

namespace Flags

def initial : Flags := ⟨false, false, false, true, false, false⟩

/-- Sets the flag of a letter. -/
def put (on : Bool) (flags : Flags) : Char → Option Flags
  | 'i' => some { flags with anyCase := on }
  | 'm' => some { flags with multiLine := on }
  | 's' => some { flags with dotAll := on }
  | 'u' => some { flags with allScripts := on }
  | 'x' => some { flags with spaced := on }
  | 'R' => some { flags with carriage := on }
  | 'U' => some flags
  | _ => none

end Flags

/-! ### Classes of characters -/

def wordSet (flags : Flags) : CharSet :=
  if flags.allScripts then .ranges letters
  else .ranges [(0x30, 0x39), (0x41, 0x5A), (0x5F, 0x5F), (0x61, 0x7A)]

def digitSet (flags : Flags) : CharSet :=
  if flags.allScripts then .ranges digits else .ranges [(0x30, 0x39)]

def blankSet (flags : Flags) : CharSet :=
  if flags.allScripts then .ranges blanks else .ranges [(0x9, 0xD), (0x20, 0x20)]

/-- The class that a letter after a backslash names. -/
def letterClass? (flags : Flags) : Char → Option CharSet
  | 'd' => some (digitSet flags)
  | 'D' => some (.complement (digitSet flags))
  | 's' => some (blankSet flags)
  | 'S' => some (.complement (blankSet flags))
  | 'w' => some (wordSet flags)
  | 'W' => some (.complement (wordSet flags))
  | _ => none

/-- The class of a name between `[:` and `:]`. -/
def namedClass? (name : String) : Option CharSet :=
  match name with
  | "alnum" => some (.ranges [(0x30, 0x39), (0x41, 0x5A), (0x61, 0x7A)])
  | "alpha" => some (.ranges [(0x41, 0x5A), (0x61, 0x7A)])
  | "ascii" => some (.ranges [(0, 0x7F)])
  | "blank" => some (.ranges [(0x9, 0x9), (0x20, 0x20)])
  | "cntrl" => some (.ranges [(0, 0x1F), (0x7F, 0x7F)])
  | "digit" => some (.ranges [(0x30, 0x39)])
  | "graph" => some (.ranges [(0x21, 0x7E)])
  | "lower" => some (.ranges [(0x61, 0x7A)])
  | "print" => some (.ranges [(0x20, 0x7E)])
  | "punct" => some (.ranges [(0x21, 0x2F), (0x3A, 0x40), (0x5B, 0x60), (0x7B, 0x7E)])
  | "space" => some (.ranges [(0x9, 0xD), (0x20, 0x20)])
  | "upper" => some (.ranges [(0x41, 0x5A)])
  | "word" => some (.ranges [(0x30, 0x39), (0x41, 0x5A), (0x5F, 0x5F), (0x61, 0x7A)])
  | "xdigit" => some (.ranges [(0x30, 0x39), (0x41, 0x46), (0x61, 0x66)])
  | _ => none

/-- A set as the flags want it, the set of all cases of its letters where case is ignored. -/
def Flags.fold (flags : Flags) (set : CharSet) : CharSet :=
  if flags.anyCase then .anyCase set else set

/-! ### Escapes -/

def hexDigit? (c : Char) : Option Nat :=
  if '0' ≤ c ∧ c ≤ '9' then some (c.toNat - '0'.toNat)
  else if 'a' ≤ c ∧ c ≤ 'f' then some (c.toNat - 'a'.toNat + 10)
  else if 'A' ≤ c ∧ c ≤ 'F' then some (c.toNat - 'A'.toNat + 10)
  else none

/-- The character of a code point, if there is one. -/
def ofCode? (code : Nat) : Option Char :=
  if code < 0xD800 ∨ 0xDFFF < code ∧ code < 0x110000 then some (Char.ofNat code) else none

def hexValue? (digits : List Char) : Option Nat :=
  if digits.isEmpty then none
  else digits.foldlM (fun value c => (hexDigit? c).map fun digit => 16 * value + digit) 0

/-- A character by its code point, in a fixed number of digits or between braces. -/
def takeCode (count : Nat) (source : List Char) : Option (Char × List Char) :=
  match source with
  | '\x7b' :: rest =>
      match rest.dropWhile (· != '\x7d') with
      | _ :: after => do
          return (← ofCode? (← hexValue? (rest.takeWhile (· != '\x7d'))), after)
      | [] => none
  | _ =>
      if source.length < count then none
      else do return (← ofCode? (← hexValue? (source.take count)), source.drop count)

/-- Characters that may follow a backslash and then stand for themselves. -/
def isMark (c : Char) : Bool :=
  c.toNat < 0x80 && !c.isAlphanum && c != '<' && c != '>' && 0x20 ≤ c.toNat && c.toNat != 0x7F

/-- The character that an escape stands for, from behind the backslash. -/
def takeEscape : List Char → Option (Char × List Char)
  | 'a' :: rest => some ('\x07', rest)
  | 'f' :: rest => some ('\x0c', rest)
  | 't' :: rest => some ('\t', rest)
  | 'n' :: rest => some ('\n', rest)
  | 'r' :: rest => some ('\r', rest)
  | 'v' :: rest => some ('\x0b', rest)
  | 'x' :: rest => takeCode 2 rest
  | 'u' :: rest => takeCode 4 rest
  | 'U' :: rest => takeCode 8 rest
  | c :: rest => if isMark c then some (c, rest) else none
  | [] => none

/-- The anchor that an escape stands for, from behind the backslash. -/
def takeAnchor (flags : Flags) (source : List Char) : Option (Anchor × List Char) :=
  let word := wordSet flags
  match source with
  | 'A' :: rest => some (.start, rest)
  | 'z' :: rest => some (.finish, rest)
  | 'B' :: rest => some (.noBoundary word, rest)
  | '<' :: rest => some (.wordStart word, rest)
  | '>' :: rest => some (.wordFinish word, rest)
  | 'b' :: '\x7b' :: rest =>
      match String.ofList (rest.takeWhile (· != '\x7d')), (rest.dropWhile (· != '\x7d')).drop 1 with
      | "start", after => some (.wordStart word, after)
      | "end", after => some (.wordFinish word, after)
      | "start-half", after => some (.beforeWord word, after)
      | "end-half", after => some (.afterWord word, after)
      | _, _ => none
  | 'b' :: rest => some (.boundary word, rest)
  | _ => none

/-! ### Classes in brackets -/

/-- Skips white space and comments where flags allow them. -/
def skipSpace (flags : Flags) : Nat → List Char → List Char
  | 0, source => source
  | fuel + 1, source =>
      if flags.spaced then
        match source with
        | '#' :: rest => skipSpace flags fuel (rest.dropWhile (· != '\n'))
        | c :: rest => if isBlank c then skipSpace flags fuel rest else source
        | [] => []
      else source

/-- One character of a class, literal or escaped. -/
def takeClassChar : List Char → Option (Char × List Char)
  | '\\' :: rest => takeEscape rest
  | c :: rest => some (c, rest)
  | [] => none

/-- A character or a range, at a place where a class may hold one. -/
def takeRange (source : List Char) : Option (CharSet × List Char) := do
  let (first, rest) ← takeClassChar source
  match rest with
  | '-' :: ']' :: _ => return (CharSet.single first, rest)
  | '-' :: '-' :: _ => return (CharSet.single first, rest)
  | '-' :: upper => do
      let (last, after) ← takeClassChar upper
      if first ≤ last then return (.ranges [(first.toNat, last.toNat)], after) else none
  | _ => return (CharSet.single first, rest)

/-- A class by name, from behind `[:`. -/
def takeNamedClass (source : List Char) : Option (CharSet × List Char) :=
  let negated := source.head? = some '^'
  let body := if negated then source.drop 1 else source
  match body.dropWhile (· != ':') with
  | ':' :: ']' :: rest =>
      (namedClass? (String.ofList (body.takeWhile (· != ':')))).map fun set =>
        (if negated then .complement set else set, rest)
  | _ => none

/-- The set of an operator between two sets of a class. -/
inductive SetOperator where
  | intersection
  | difference
  | symmetricDifference

def SetOperator.apply (operator : SetOperator) (left right : CharSet) : CharSet :=
  match operator with
  | .intersection => .intersection left right
  | .difference => CharSet.difference left right
  | .symmetricDifference =>
      .union (CharSet.difference left right) (CharSet.difference right left)

/-- The operator at the start of a text. -/
def takeOperator : List Char → Option (SetOperator × List Char)
  | '&' :: '&' :: rest => some (.intersection, rest)
  | '-' :: '-' :: rest => some (.difference, rest)
  | '~' :: '~' :: rest => some (.symmetricDifference, rest)
  | _ => none

def noChars : CharSet := .ranges []

/-- The set of the items before an operator or the end, joined to what stood before them. -/
def combine (flags : Flags) (pending : Option (CharSet × SetOperator)) (items : CharSet) :
    CharSet :=
  match pending with
  | none => flags.fold items
  | some (left, operator) => operator.apply left (flags.fold items)

mutual

/-- A class from behind its opening bracket. -/
def takeClass (flags : Flags) : Nat → List Char → Option (CharSet × List Char)
  | 0, _ => none
  | fuel + 1, source =>
      let opened := skipSpace flags fuel source
      let negated := opened.head? = some '^'
      let body := if negated then skipSpace flags fuel (opened.drop 1) else opened
      let dashes := body.takeWhile (· = '-')
      let afterDashes := body.dropWhile (· = '-')
      let start := if dashes.isEmpty then noChars else CharSet.single '-'
      let found :=
        match dashes, afterDashes with
        | [], ']' :: rest => takeClassItems flags fuel none (CharSet.single ']') rest
        | _, _ => takeClassItems flags fuel none start afterDashes
      found.map fun result => (if negated then .complement result.1 else result.1, result.2)

/-- The items of a class up to its closing bracket. -/
def takeClassItems (flags : Flags) : Nat → Option (CharSet × SetOperator) → CharSet →
    List Char → Option (CharSet × List Char)
  | 0, _, _, _ => none
  | fuel + 1, pending, items, source =>
      match skipSpace flags fuel source with
      | [] => none
      | ']' :: rest => some (combine flags pending items, rest)
      | '[' :: ':' :: rest =>
          match takeNamedClass rest with
          | some (set, after) => takeClassItems flags fuel pending (.union items set) after
          | none =>
              match takeClass flags fuel (':' :: rest) with
              | some (set, after) => takeClassItems flags fuel pending (.union items set) after
              | none => none
      | '[' :: rest =>
          match takeClass flags fuel rest with
          | some (set, after) => takeClassItems flags fuel pending (.union items set) after
          | none => none
      | body =>
          match takeOperator body with
          | some (operator, rest) =>
              takeClassItems flags fuel (some (combine flags pending items, operator)) noChars rest
          | none =>
              match body with
              | '\\' :: letter :: rest =>
                  match letterClass? flags letter with
                  | some set => takeClassItems flags fuel pending (.union items set) rest
                  | none =>
                      match takeRange body with
                      | some (set, after) =>
                          takeClassItems flags fuel pending (.union items set) after
                      | none => none
              | _ =>
                  match takeRange body with
                  | some (set, after) => takeClassItems flags fuel pending (.union items set) after
                  | none => none

end

/-! ### Repetitions -/

/-- The bounds between braces, from behind the opening one. -/
def takeBounds (source : List Char) : Option (Nat × Option Nat × List Char) :=
  let text := source.dropWhile isBlank
  let first := takeNumber text.length text
  let after := (first.elim text Prod.snd).dropWhile isBlank
  match after with
  | '\x7d' :: rest => first.map fun found => (found.1, some found.1, rest)
  | ',' :: behind =>
      let second := behind.dropWhile isBlank
      match takeNumber second.length second with
      | some (most, closing) =>
          match closing.dropWhile isBlank with
          | '\x7d' :: rest =>
              let least := (first.map Prod.fst).getD 0
              if least ≤ most then some (least, some most, rest) else none
          | _ => none
      | none =>
          match second with
          | '\x7d' :: rest => first.map fun found => (found.1, none, rest)
          | _ => none
  | _ => none

/-- A mark that makes a repetition lazy changes nothing in what is matched. -/
def skipLazy : List Char → List Char
  | '?' :: rest => rest
  | rest => rest

/-- The repetitions behind a part of a pattern. -/
def takeRepetitions (flags : Flags) : Nat → Node → List Char → Option (Node × List Char)
  | 0, _, _ => none
  | fuel + 1, node, source =>
      match skipSpace flags fuel source with
      | '*' :: rest => takeRepetitions flags fuel (.repetition node 0 none) (skipLazy rest)
      | '+' :: rest => takeRepetitions flags fuel (.repetition node 1 none) (skipLazy rest)
      | '?' :: rest => takeRepetitions flags fuel (.repetition node 0 (some 1)) (skipLazy rest)
      | '\x7b' :: rest =>
          match takeBounds rest with
          | some (least, most, after) =>
              takeRepetitions flags fuel (.repetition node least most) (skipLazy after)
          | none => none
      | rest => some (node, rest)

/-! ### Whole patterns -/

/-- Flags from behind `(?`, up to the colon or parenthesis that ends them. -/
def takeFlags : Nat → Bool → Flags → List Char → Option (Flags × List Char)
  | 0, _, _, _ => none
  | fuel + 1, on, flags, source =>
      match source with
      | ':' :: _ => some (flags, source)
      | ')' :: _ => some (flags, source)
      | '-' :: rest => if on then takeFlags fuel false flags rest else none
      | c :: rest => (flags.put on c).bind fun changed => takeFlags fuel on changed rest
      | [] => none

/-- A name of a group, up to behind its closing bracket. -/
def skipGroupName (source : List Char) : Option (List Char) :=
  match source.dropWhile (· != '>') with
  | _ :: rest => some rest
  | [] => none

/-- Any character that the flags let a dot stand for. -/
def dotSet (flags : Flags) : CharSet :=
  if flags.dotAll then .ranges [(0, 0x10FFFF)]
  else if flags.carriage then .ranges [(0, 0x9), (0xB, 0xC), (0xE, 0x10FFFF)]
  else .ranges [(0, 0x9), (0xB, 0x10FFFF)]

def literal (flags : Flags) (c : Char) : Node := .set (flags.fold (.single c))

/-- A part that is neither group nor class. -/
def takeAtom (flags : Flags) : List Char → Option (Node × List Char)
  | '.' :: rest => some (.set (dotSet flags), rest)
  | '^' :: rest =>
      some (.anchor (if flags.multiLine then .lineStart flags.carriage else .start), rest)
  | '$' :: rest =>
      some (.anchor (if flags.multiLine then .lineFinish flags.carriage else .finish), rest)
  | '\\' :: letter :: rest =>
      match letterClass? flags letter with
      | some set => some (.set set, rest)
      | none =>
          match takeAnchor flags (letter :: rest) with
          | some (anchor, after) => some (.anchor anchor, after)
          | none => (takeEscape (letter :: rest)).map fun found => (literal flags found.1, found.2)
  | c :: rest =>
      if c = '\\' ∨ c = '*' ∨ c = '+' ∨ c = '?' ∨ c = '\x7b' then none
      else some (literal flags c, rest)
  | [] => none

mutual

/-- Alternatives up to a closing parenthesis or the end. -/
def takeChoice : Nat → Flags → List Char → Option (Node × Flags × List Char)
  | 0, _, _ => none
  | fuel + 1, flags, source =>
      match takeSequence fuel flags .empty source with
      | some (first, changed, '|' :: rest) =>
          (takeChoice fuel changed rest).map fun found => (.choice first found.1, found.2)
      | found => found

/-- Parts in sequence up to a bar, a closing parenthesis or the end. -/
def takeSequence : Nat → Flags → Node → List Char → Option (Node × Flags × List Char)
  | 0, _, _, _ => none
  | fuel + 1, flags, before, source =>
      match skipSpace flags fuel source with
      | [] => some (before, flags, [])
      | '|' :: rest => some (before, flags, '|' :: rest)
      | ')' :: rest => some (before, flags, ')' :: rest)
      | '(' :: rest =>
          match takeGroup fuel flags rest with
          | some (none, changed, after) => takeSequence fuel changed before after
          | some (some node, _, after) =>
              match takeRepetitions flags fuel node after with
              | some (repeated, remaining) =>
                  takeSequence fuel flags (.sequence before repeated) remaining
              | none => none
          | none => none
      | '[' :: rest =>
          match takeClass flags fuel rest with
          | some (set, after) =>
              match takeRepetitions flags fuel (.set set) after with
              | some (repeated, remaining) =>
                  takeSequence fuel flags (.sequence before repeated) remaining
              | none => none
          | none => none
      | body =>
          match takeAtom flags body with
          | some (node, after) =>
              match takeRepetitions flags fuel node after with
              | some (repeated, remaining) =>
                  takeSequence fuel flags (.sequence before repeated) remaining
              | none => none
          | none => none

/-- A group from behind its parenthesis, or flags for what follows. -/
def takeGroup : Nat → Flags → List Char → Option (Option Node × Flags × List Char)
  | 0, _, _ => none
  | fuel + 1, flags, source =>
      match source with
      | '?' :: 'P' :: '<' :: rest => (skipGroupName rest).bind (takeGroupBody fuel flags)
      | '?' :: '<' :: rest => (skipGroupName rest).bind (takeGroupBody fuel flags)
      | '?' :: rest =>
          match takeFlags fuel true flags rest with
          | some (changed, ')' :: after) => some (none, changed, after)
          | some (changed, _ :: after) => takeGroupBody fuel changed after
          | _ => none
      | rest => takeGroupBody fuel flags rest

/-- The alternatives of a group and its closing parenthesis. -/
def takeGroupBody : Nat → Flags → List Char → Option (Option Node × Flags × List Char)
  | 0, _, _ => none
  | fuel + 1, flags, source =>
      match takeChoice fuel flags source with
      | some (node, _, ')' :: rest) => some (some node, flags, rest)
      | _ => none

end

/-- Reads a whole pattern. -/
def read? (source : String) : Option Node :=
  match takeChoice (8 * source.length + 8) Flags.initial source.toList with
  | some (node, _, []) => some node
  | _ => none

end EntityMapper.Pattern
