import EntityMapper.Proofs.Statement.Fragment

set_option autoImplicit false

/-! The words of a statement. A backtick opens a name, a doubled one in it stands for itself, and a
single one closes it; outside of names there are words, comparison signs, marks and placeholders.
Fragments whose borders cannot run together are read one after the other. -/

namespace EntityMapper

/-- A smallest part of a text that is read; a placeholder carries what is bound to it. -/
inductive Token (α : Type) where
  | word (text : String)
  | name (spelling : String)
  | comparison (text : String)
  | mark (c : Char)
  | placeholder (bound : α)
deriving DecidableEq

namespace Token

variable {α β : Type}

/-- Replaces what is bound to placeholders. -/
def map (change : α → β) : Token α → Token β
  | .word text => .word text
  | .name spelling => .name spelling
  | .comparison text => .comparison text
  | .mark c => .mark c
  | .placeholder bound => .placeholder (change bound)

/-- Binds values to placeholders, from the left; there have to be as many of them. -/
def bindAll? : List (Token Unit) → List α → Option (List (Token α))
  | [], [] => some []
  | [], _ :: _ => none
  | .placeholder _ :: rest, values =>
      match values with
      | [] => none
      | value :: others => (bindAll? rest others).map (.placeholder value :: ·)
  | .word text :: rest, values => (bindAll? rest values).map (.word text :: ·)
  | .name spelling :: rest, values => (bindAll? rest values).map (.name spelling :: ·)
  | .comparison text :: rest, values => (bindAll? rest values).map (.comparison text :: ·)
  | .mark c :: rest, values => (bindAll? rest values).map (.mark c :: ·)

/-- What is bound in a list of tokens, from the left. -/
def bounds : List (Token α) → List α
  | [] => []
  | .placeholder bound :: rest => bound :: bounds rest
  | .word _ :: rest => bounds rest
  | .name _ :: rest => bounds rest
  | .comparison _ :: rest => bounds rest
  | .mark _ :: rest => bounds rest

theorem bounds_append (left right : List (Token α)) :
    bounds (left ++ right) = bounds left ++ bounds right := by
  induction left with
  | nil => rfl
  | cons token rest ih => cases token <;> simp [bounds, ih]

/-- Tokens that have lost what is bound in them get it back. -/
theorem bindAll?_forget (tokens : List (Token α)) :
    bindAll? (tokens.map (map fun _ => ())) (bounds tokens) = some tokens := by
  induction tokens with
  | nil => rfl
  | cons token rest ih => cases token <;> simp [map, bounds, bindAll?, ih]

end Token

namespace Lexer

/-- What the characters read so far leave open. -/
inductive Mode where
  | between
  | word (read : List Char)
  | comparison (read : List Char)
  /-- Inside of a name. -/
  | name (read : List Char)
  /-- Behind a delimiter that closes a name, unless another one follows. -/
  | closing (read : List Char)
deriving DecidableEq

namespace Mode

/-- Whether no name is open. -/
def isClosed : Mode → Bool
  | .name _ => false
  | _ => true

/-- The token that is complete if nothing more belongs to it. -/
def pending : Mode → List (Token Unit)
  | .word read => [.word (String.ofList read)]
  | .comparison read => [.comparison (String.ofList read)]
  | .closing read => [.name (String.ofList read)]
  | _ => []

end Mode

/-- Whether a character belongs to words. -/
def isLetter (c : Char) : Bool := c.isAlphanum || c = '_'

def isComparison (c : Char) : Bool := c = '=' || c = '<' || c = '>'

def isMark (c : Char) : Bool := c = '(' || c = ')' || c = ',' || c = '.' || c = ';'

/-- Reads a character that belongs to no token before it; the wildcard is a name of its own. -/
def start (c : Char) : Option (List (Token Unit) × Mode) :=
  if c.isWhitespace then some ([], .between)
  else if c = Name.delimiter then some ([], .name [])
  else if isLetter c then some ([], .word [c])
  else if isComparison c then some ([], .comparison [c])
  else if c = '?' then some ([.placeholder ()], .between)
  else if c = '*' then some ([.name Name.wildcard], .between)
  else if isMark c then some ([.mark c], .between)
  else none

/-- Reads a character that belongs to the token before it. -/
def extend? : Mode → Char → Option Mode
  | .between, _ => none
  | .word read, c => if isLetter c then some (.word (read ++ [c])) else none
  | .comparison read, c => if isComparison c then some (.comparison (read ++ [c])) else none
  | .name read, c => some (if c = Name.delimiter then .closing read else .name (read ++ [c]))
  | .closing read, c => if c = Name.delimiter then some (.name (read ++ [c])) else none

/-- Reads one character: the tokens that are complete now, and what is left open. -/
def step (mode : Mode) (c : Char) : Option (List (Token Unit) × Mode) :=
  match extend? mode c with
  | some next => some ([], next)
  | none => (start c).map fun reading => (mode.pending ++ reading.1, reading.2)

def run : Mode → List Char → Option (List (Token Unit) × Mode)
  | mode, [] => some ([], mode)
  | mode, c :: rest =>
      (step mode c).bind fun reading =>
        (run reading.2 rest).map fun others => (reading.1 ++ others.1, others.2)

/-- The tokens of a text, if all names are closed and all characters are known. -/
def tokens? (text : List Char) : Option (List (Token Unit)) :=
  (run .between text).bind fun reading =>
    if reading.2.isClosed then some (reading.1 ++ reading.2.pending) else none

@[simp] theorem run_nil (mode : Mode) : run mode [] = some ([], mode) := rfl

theorem run_cons (mode : Mode) (c : Char) (rest : List Char) :
    run mode (c :: rest) = (step mode c).bind fun reading =>
      (run reading.2 rest).map fun others => (reading.1 ++ others.1, others.2) := rfl

/-- A text is read through any cut. -/
theorem run_append {mode middle last : Mode} {left right : List Char}
    {first second : List (Token Unit)} (readLeft : run mode left = some (first, middle))
    (readRight : run middle right = some (second, last)) :
    run mode (left ++ right) = some (first ++ second, last) := by
  induction left generalizing mode first with
  | nil =>
      rw [run_nil, Option.some.injEq, Prod.mk.injEq] at readLeft
      obtain ⟨rfl, rfl⟩ := readLeft
      rw [List.nil_append, readRight, List.nil_append]
  | cons c rest ih =>
      rw [run_cons, Option.bind_eq_some_iff] at readLeft
      obtain ⟨reading, stepped, others⟩ := readLeft
      rw [Option.map_eq_some_iff] at others
      obtain ⟨⟨tokens, _⟩, readRest, joined⟩ := others
      rw [Prod.mk.injEq] at joined
      obtain ⟨rfl, rfl⟩ := joined
      rw [List.cons_append, run_cons, stepped, Option.bind_some, ih readRest, Option.map_some,
        List.append_assoc]

/-- A character that ends whatever token stands before it and leaves nothing open behind it. -/
def isBorder (c : Char) : Bool := !isLetter c && !isComparison c && c != Name.delimiter

theorem step_border {mode : Mode} {c : Char} (closed : mode.isClosed = true)
    (border : isBorder c = true) :
    step mode c = (step .between c).map fun reading => (mode.pending ++ reading.1, reading.2) := by
  simp only [isBorder, Bool.and_eq_true, Bool.not_eq_true', bne_iff_ne, ne_eq] at border
  obtain ⟨⟨letter, comparison⟩, delimiter⟩ := border
  have ended : extend? mode c = none := by
    cases mode with
    | between => rfl
    | word read => rw [extend?, letter, if_neg Bool.false_ne_true]
    | comparison read => rw [extend?, comparison, if_neg Bool.false_ne_true]
    | name read => cases closed
    | closing read => rw [extend?, if_neg delimiter]
  have fresh : step .between c = start c := by
    rw [step, extend?]
    cases start c <;> rfl
  rw [fresh, step, ended]

theorem between_of_start {last : Mode} {c : Char} {tokens : List (Token Unit)}
    (started : start c = some (tokens, last)) (border : isBorder c = true) : last = .between := by
  simp only [isBorder, Bool.and_eq_true, Bool.not_eq_true', bne_iff_ne, ne_eq] at border
  obtain ⟨⟨letter, comparison⟩, delimiter⟩ := border
  rw [start, if_neg delimiter, letter, if_neg Bool.false_ne_true, comparison,
    if_neg Bool.false_ne_true] at started
  -- What is left are a blank, a placeholder, the wildcard and the marks.
  split at started
  · exact (Prod.mk.inj (Option.some.inj started)).2.symm
  · split at started
    · exact (Prod.mk.inj (Option.some.inj started)).2.symm
    · split at started
      · exact (Prod.mk.inj (Option.some.inj started)).2.symm
      · split at started
        · exact (Prod.mk.inj (Option.some.inj started)).2.symm
        · cases started

/-- Behind a border nothing is open. -/
theorem between_of_border {mode last : Mode} {c : Char} {tokens : List (Token Unit)}
    (stepped : step mode c = some (tokens, last)) (border : isBorder c = true)
    (closed : last.isClosed = true) : last = .between := by
  have parts := border
  simp only [isBorder, Bool.and_eq_true, Bool.not_eq_true', bne_iff_ne, ne_eq] at parts
  obtain ⟨⟨letter, comparison⟩, delimiter⟩ := parts
  unfold step at stepped
  cases extended : extend? mode c with
  | some next =>
      rw [extended] at stepped
      obtain rfl : next = last := congrArg Prod.snd (Option.some.inj stepped)
      cases mode with
      | between => cases extended
      | word read =>
          rw [extend?, letter, if_neg Bool.false_ne_true] at extended
          cases extended
      | comparison read =>
          rw [extend?, comparison, if_neg Bool.false_ne_true] at extended
          cases extended
      | name read =>
          rw [extend?, if_neg delimiter] at extended
          rw [← Option.some.inj extended] at closed
          cases closed
      | closing read =>
          rw [extend?, if_neg delimiter] at extended
          cases extended
  | none =>
      rw [extended] at stepped
      obtain ⟨⟨first, next⟩, started, shifted⟩ := Option.map_eq_some_iff.1 stepped
      obtain rfl : next = last := congrArg Prod.snd shifted
      exact between_of_start started border

theorem between_of_getLast? {mode last : Mode} {text : List Char} {tokens : List (Token Unit)}
    {c : Char} (read : run mode text = some (tokens, last)) (ending : text.getLast? = some c)
    (border : isBorder c = true) (closed : last.isClosed = true) : last = .between := by
  induction text generalizing mode tokens with
  | nil => cases ending
  | cons d rest ih =>
      rw [run_cons, Option.bind_eq_some_iff] at read
      obtain ⟨⟨first, middle⟩, stepped, others⟩ := read
      obtain ⟨⟨following, _⟩, readRest, joined⟩ := Option.map_eq_some_iff.1 others
      obtain ⟨-, rfl⟩ := Prod.mk.inj joined
      cases rest with
      | nil =>
          obtain rfl : d = c := Option.some.inj ending
          obtain rfl : middle = _ := congrArg Prod.snd (Option.some.inj readRest)
          exact between_of_border stepped border closed
      | cons e more => exact ih readRest (by rw [← ending, List.getLast?_cons_cons])

/-- The characters of a name are read as the name, whatever they are. -/
theorem run_doubled (read name : List Char) :
    run (.name read) (Name.doubled name) = some ([], .name (read ++ name)) := by
  induction name generalizing read with
  | nil => rw [Name.doubled_nil, run_nil, List.append_nil]
  | cons c rest ih =>
      rw [Name.doubled_cons]
      split
      · rename_i delimits
        simp [run_cons, step, extend?, delimits, ih]
      · rename_i plain
        simp [run_cons, step, extend?, plain, ih]

end Lexer

end EntityMapper
