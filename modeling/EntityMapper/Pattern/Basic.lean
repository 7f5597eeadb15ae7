import EntityMapper.Pattern.CaseFold
import EntityMapper.Text.Ranges

set_option autoImplicit false

/-! Patterns of text and their matching. Matching follows sets of places: a part of a pattern
leads from the places where it starts to the places where it can end. -/

namespace EntityMapper.Pattern

open Text

/-- A set of characters. -/
inductive CharSet where
  | ranges (ranges : Ranges)
  /-- The characters that differ in case only from one of a set. -/
  | anyCase (set : CharSet)
  | complement (set : CharSet)
  | union (left right : CharSet)
  | intersection (left right : CharSet)

namespace CharSet

def single (c : Char) : CharSet := .ranges [(c.toNat, c.toNat)]

def difference (left right : CharSet) : CharSet := .intersection left (.complement right)

def contains : CharSet → Char → Bool
  | .ranges listed, c => Ranges.contains listed c
  | .anyCase set, c => (caseVariants c).any set.contains
  | .complement set, c => !set.contains c
  | .union left right, c => left.contains c || right.contains c
  | .intersection left right, c => left.contains c && right.contains c

end CharSet

/-- What has to hold of the characters before and after a place. -/
inductive Anchor where
  | start
  | finish
  /-- The start of a line; `carriage` counts a carriage return as part of a line end. -/
  | lineStart (carriage : Bool)
  | lineFinish (carriage : Bool)
  /-- A place where a word starts or ends. -/
  | boundary (word : CharSet)
  | noBoundary (word : CharSet)
  | wordStart (word : CharSet)
  | wordFinish (word : CharSet)
  | beforeWord (word : CharSet)
  | afterWord (word : CharSet)

namespace Anchor

/-- Whether an optional character is of a word. -/
def inWord (word : CharSet) (c : Option Char) : Bool := c.elim false word.contains

def startsLine (carriage : Bool) (before after : Option Char) : Bool :=
  before = none || before = some '\n' ||
    (carriage && before = some '\r' && after != some '\n')

def endsLine (carriage : Bool) (before after : Option Char) : Bool :=
  if carriage then
    after = none || after = some '\r' || (after = some '\n' && before != some '\r')
  else after = none || after = some '\n'

def holds (before after : Option Char) : Anchor → Bool
  | .start => before = none
  | .finish => after = none
  | .lineStart carriage => startsLine carriage before after
  | .lineFinish carriage => endsLine carriage before after
  | .boundary word => inWord word before != inWord word after
  | .noBoundary word => inWord word before == inWord word after
  | .wordStart word => !inWord word before && inWord word after
  | .wordFinish word => inWord word before && !inWord word after
  | .beforeWord word => !inWord word before
  | .afterWord word => !inWord word after

end Anchor

/-- A part of a pattern. -/
inductive Node where
  | empty
  | set (set : CharSet)
  | anchor (anchor : Anchor)
  | sequence (first second : Node)
  | choice (left right : Node)
  /-- At least `least` times the same, and at most `most` times if that is given. -/
  | repetition (node : Node) (least : Nat) (most : Option Nat)

/-- Places in a text, in ascending order. -/
abbrev Places := List Nat

namespace Places

/-- The places of both lists, each once. -/
def merge : Places → Places → Places
  | [], right => right
  | left, [] => left
  | a :: left, b :: right =>
      if a < b then a :: merge left (b :: right)
      else if b < a then b :: merge (a :: left) right
      else a :: merge left right
termination_by left right => left.length + right.length

/-- Applies a step `times` times. -/
def iterate (step : Places → Places) : Nat → Places → Places
  | 0, places => places
  | times + 1, places => iterate step times (step places)

/-- The places reached by at most `times` steps. -/
def closure (step : Places → Places) : Nat → Places → Places
  | 0, places => places
  | times + 1, places =>
      let next := merge places (step places)
      if next = places then places else closure step times next

end Places

namespace Node

/-- The places where a part can end that starts at one of the places given. -/
def ends (text : Array Char) : Node → Places → Places
  | .empty, places => places
  | .set allowed, places => places.filterMap fun place =>
      if (text[place]?).elim false allowed.contains then some (place + 1) else none
  | .anchor condition, places => places.filter fun place =>
      condition.holds (if place = 0 then none else text[place - 1]?) text[place]?
  | .sequence first second, places => second.ends text (first.ends text places)
  | .choice left right, places => Places.merge (left.ends text places) (right.ends text places)
  | .repetition node least most, places =>
      let started := Places.iterate (node.ends text) least places
      let more := most.elim (text.size + 1) fun most => min (most - least) (text.size + 1)
      Places.closure (node.ends text) more started

/-- Whether some part of a text matches. -/
def occursIn (node : Node) (text : String) : Bool :=
  let characters := text.toList.toArray
  !(node.ends characters (List.range (characters.size + 1))).isEmpty

end Node

end EntityMapper.Pattern
