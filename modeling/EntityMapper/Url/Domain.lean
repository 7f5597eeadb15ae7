import EntityMapper.Url.Admitted
import EntityMapper.Url.Direction
import EntityMapper.Url.Folding
import EntityMapper.Url.Joining
import EntityMapper.Url.Punycode

set_option autoImplicit false

/-! Domain names with characters outside of ASCII: each character is folded to its usual form,
and each label has to be one that can be shown without confusion. -/

namespace EntityMapper.Url

open Text

/-- The parts of a text between its points. -/
def labels : List Char → List (List Char)
  | [] => [[]]
  | c :: rest =>
      if c = '.' then [] :: labels rest
      else
        match labels rest with
        | [] => [[c]]
        | label :: others => (c :: label) :: others

def isAscii (c : Char) : Bool := c.toNat < 0x80

/-- ASCII characters that no domain name holds: controls, the blank, and the marks that delimit
the parts of an address. -/
def isForbidden (c : Char) : Bool :=
  c.toNat ≤ 0x20 || c = '\x7f' ||
    ['%', '#', '/', ':', '<', '>', '?', '@', '[', '\\', ']', '^', '|'].contains c

/-- The text with ASCII in it for which a character stands. -/
def foldedText? (c : Char) : Option (List Char) :=
  match foldedRuns.find? fun run => run.1 ≤ c.toNat && c.toNat ≤ run.2.1 with
  | some run => some [Char.ofNat (run.2.2 + (c.toNat - run.1))]
  | none => (foldedTexts.lookup c.toNat).map String.toList

/-- A character in its usual form, if domain names admit it. -/
def foldCharacter (c : Char) : Option (List Char) :=
  let text :=
    if isAscii c then [c.toLower]
    else if ignored.contains c then []
    else (foldedText? c).getD [c]
  if text.any isForbidden || disallowed.contains c then none else some text

/-- All characters of a text in their usual form. -/
def foldText : List Char → Option (List Char)
  | [] => some []
  | c :: rest => do return (← foldCharacter c) ++ (← foldText rest)

/-- A character that is its own usual form. -/
def isSettled (c : Char) : Bool :=
  if isAscii c then !isForbidden c && !c.isUpper
  else !(disallowed.contains c || ignored.contains c || replaced.contains c)

/-! ### Joiners -/

/-- Whether the letters around a character join: `before` is reversed. -/
def joinsAround (before after : List Char) : Bool :=
  ((before.dropWhile transparent.contains).head?.elim false joinsNext.contains) &&
    ((after.dropWhile transparent.contains).head?.elim false joinsPrevious.contains)

/-- Whether invisible joiners stand only where they show; `before` is reversed. -/
def joinersShow (before : List Char) : List Char → Bool
  | [] => true
  | c :: rest =>
      let afterVirama := before.head?.elim false viramas.contains
      let shows :=
        if c = '\u200d' then afterVirama
        else if c = '\u200c' then afterVirama || joinsAround before rest
        else true
      shows && joinersShow (c :: before) rest

/-! ### Direction -/

/-- How a character counts for the direction of a label. -/
inductive Direction where
  | left
  | right
  | arabicNumber
  | europeanNumber
  | neutral
  | nonspacing
deriving DecidableEq, Repr

def direction (c : Char) : Direction :=
  if isAscii c then
    if c.isAlpha then .left else if c.isDigit then .europeanNumber else .neutral
  else if rightToLeft.contains c then .right
  else if arabicNumbers.contains c then .arabicNumber
  else if europeanNumbers.contains c then .europeanNumber
  else if neutral.contains c then .neutral
  else if nonspacing.contains c then .nonspacing
  else .left

/-- The last direction that is not that of a mark. -/
def lastDirection? (directions : List Direction) : Option Direction :=
  (directions.reverse.dropWhile (· = .nonspacing)).head?

/-- Whether a label can be shown among others of either direction. -/
def keepsOrder (directions : List Direction) : Bool :=
  match directions.head? with
  | none => true
  | some .left =>
      directions.all (fun d => d = .left || d = .europeanNumber || d = .neutral || d = .nonspacing) &&
        (lastDirection? directions).elim false fun d => d = .left || d = .europeanNumber
  | some .right =>
      directions.all (· ≠ .left) &&
        ((lastDirection? directions).elim false fun d =>
          d = .right || d = .europeanNumber || d = .arabicNumber) &&
        !(directions.contains .europeanNumber && directions.contains .arabicNumber)
  | some _ => false

def isRightToLeft (directions : List Direction) : Bool :=
  directions.any fun d => d = .right || d = .arabicNumber

/-! ### Labels -/

def asciiMarker : List Char := ['x', 'n', '-', '-']

/-- A label as it is shown; one spelled in ASCII has to stand for characters outside of it. -/
def shownLabel (label : List Char) : Option (List Char) :=
  if asciiMarker.isPrefixOf label then
    match Punycode.decode (label.drop 4) with
    | some shown =>
        if label.all isAscii && shown.any (!isAscii ·) && shown.all isSettled then some shown
        else none
    | none => none
  else some label

/-- Whether a label can stand in a domain name. -/
def isLabel (label : List Char) : Bool :=
  label.all isAscii || (!(label.head?.elim false marks.contains) && joinersShow [] label)

/-- The labels of a domain name, if they can stand in one. -/
def domainLabels? (text : List Char) : Option (List (List Char)) := do
  let folded ← foldText text
  let shown ← (labels folded).mapM shownLabel
  let directions := shown.map fun label => label.map direction
  if shown.all isLabel && (!directions.any isRightToLeft || directions.all keepsOrder) then
    return labels folded
  else none

end EntityMapper.Url
