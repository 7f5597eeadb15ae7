import EntityMapper.Proofs.Statement.Token

set_option autoImplicit false

/-! Fragments that are read piece by piece: words as they are read alone, each name as one token,
and each placeholder with its value. -/

namespace EntityMapper

open Lexer

/-- The tokens of a piece that is read alone. -/
def Piece.tokens : Piece → List (Token Value)
  | .words text => ((tokens? text.toList).getD []).map (Token.map fun _ => .null)
  | .name spelling => [.name spelling]
  | .bind value => [.placeholder value]
  | .prepared _ _ => []

/-- The tokens of a statement, with the values that are bound to its placeholders. -/
def Statement.tokens? (statement : Statement) : Option (List (Token Value)) :=
  (Lexer.tokens? statement.text.toList).bind fun tokens => Token.bindAll? tokens statement.params

namespace Fragment

/-- The tokens of the pieces. -/
def tokens (fragment : Fragment) : List (Token Value) := fragment.pieces.flatMap Piece.tokens

@[simp] theorem tokens_append (left right : Fragment) :
    (left ++ right).tokens = left.tokens ++ right.tokens :=
  List.flatMap_append

@[simp] theorem tokens_name (spelling : String) :
    (Fragment.name spelling).tokens = [.name spelling] := rfl

@[simp] theorem tokens_bind (value : Value) : (bind value).tokens = [.placeholder value] := rfl

/-- The text of the fragment is read as the tokens of its pieces. -/
structure Legible (fragment : Fragment) : Prop where
  reads : ∃ tokens last, run .between fragment.chars = some (tokens, last) ∧
    last.isClosed = true ∧
    tokens ++ last.pending = fragment.tokens.map (Token.map fun _ => ())
  bound : Token.bounds fragment.tokens = fragment.params

/-- Whether the first character ends any token before it. -/
def startsAtBorder (fragment : Fragment) : Bool :=
  match fragment.chars.head? with
  | some c => isBorder c
  | none => false

/-- Whether the last character leaves no token open. -/
def endsAtBorder (fragment : Fragment) : Bool :=
  match fragment.chars.getLast? with
  | some c => isBorder c
  | none => false

theorem endsAtBorder_append (left : Fragment) {right : Fragment}
    (border : right.endsAtBorder = true) : (left ++ right).endsAtBorder = true := by
  unfold endsAtBorder at border ⊢
  rw [chars_append, List.getLast?_append]
  cases final : right.chars.getLast? with
  | none =>
      rw [final] at border
      cases border
  | some c =>
      rw [final] at border
      exact border

/-- Behind a text that starts at a border the token before it is complete. -/
theorem run_of_startsAtBorder {fragment : Fragment} {mode last : Mode}
    {tokens : List (Token Unit)} (border : fragment.startsAtBorder = true)
    (closed : mode.isClosed = true) (reads : run .between fragment.chars = some (tokens, last)) :
    run mode fragment.chars = some (mode.pending ++ tokens, last) := by
  unfold startsAtBorder at border
  cases written : fragment.chars with
  | nil =>
      rw [written] at border
      cases border
  | cons c rest =>
      rw [written] at border reads
      rw [run_cons, Option.bind_eq_some_iff] at reads
      obtain ⟨reading, stepped, others⟩ := reads
      obtain ⟨following, readRest, joined⟩ := Option.map_eq_some_iff.1 others
      rw [Prod.mk.injEq] at joined
      obtain ⟨rfl, rfl⟩ := joined
      rw [run_cons, step_border closed border, stepped, Option.map_some, Option.bind_some,
        readRest, Option.map_some, List.append_assoc]

theorem between_of_endsAtBorder {fragment : Fragment} {mode last : Mode}
    {tokens : List (Token Unit)} (border : fragment.endsAtBorder = true)
    (reads : run mode fragment.chars = some (tokens, last)) (closed : last.isClosed = true) :
    last = .between := by
  unfold endsAtBorder at border
  split at border
  · rename_i c ending
    exact between_of_getLast? reads ending border closed
  · cases border

theorem legible_empty : empty.Legible :=
  ⟨⟨[], .between, by rw [chars_empty, run_nil], rfl, rfl⟩, rfl⟩

/-- Fragments are read one after the other where their borders keep them apart. -/
theorem Legible.append {left right : Fragment} (first : left.Legible) (second : right.Legible)
    (apart : left.endsAtBorder = true ∨ right.startsAtBorder = true) :
    (left ++ right).Legible := by
  obtain ⟨tokens, middle, readLeft, closedLeft, sameLeft⟩ := first.reads
  obtain ⟨following, last, readRight, closedRight, sameRight⟩ := second.reads
  refine ⟨⟨tokens ++ (middle.pending ++ following), last, ?_, closedRight, ?_⟩, ?_⟩
  · rw [chars_append]
    apply run_append readLeft
    rcases apart with ends | starts
    · rw [between_of_endsAtBorder ends readLeft closedLeft, readRight]
      rfl
    · exact run_of_startsAtBorder starts closedLeft readRight
  · rw [tokens_append, List.map_append, ← sameLeft, ← sameRight, List.append_assoc,
      List.append_assoc, List.append_assoc]
  · rw [tokens_append, Token.bounds_append, params_append, first.bound, second.bound]

/-- Whether words are read alone, without a name left open and without placeholders. -/
def wordsAreLegible (text : String) : Bool :=
  match run .between text.toList with
  | some (tokens, last) =>
      last.isClosed && (tokens ++ last.pending).all fun token =>
        match token with
        | .placeholder _ => false
        | _ => true
  | none => false

private theorem forget_of_free {tokens : List (Token Unit)}
    (free : (tokens.all fun token =>
      match token with
      | .placeholder _ => false
      | _ => true) = true) :
    (tokens.map (Token.map fun _ => Value.null)).map (Token.map fun _ => ()) = tokens ∧
      Token.bounds (tokens.map (Token.map fun _ => Value.null)) = [] := by
  induction tokens with
  | nil => exact ⟨rfl, rfl⟩
  | cons token rest ih =>
      rw [List.all_cons, Bool.and_eq_true] at free
      obtain ⟨same, none⟩ := ih free.2
      cases token with
      | placeholder bound => cases free.1
      | _ => exact ⟨by rw [List.map_cons, List.map_cons, same]; rfl, none⟩

theorem legible_words {text : String} (legible : wordsAreLegible text = true) :
    (words text).Legible := by
  unfold wordsAreLegible at legible
  split at legible
  · rename_i tokens last read
    rw [Bool.and_eq_true] at legible
    obtain ⟨same, free⟩ := forget_of_free legible.2
    have whole : (words text).tokens =
        (tokens ++ last.pending).map (Token.map fun _ => .null) := by
      rw [Fragment.tokens, words, List.flatMap_singleton, Piece.tokens, Lexer.tokens?, read,
        Option.bind_some, if_pos legible.1, Option.getD_some]
    refine ⟨⟨tokens, last, by rw [chars_words, read], legible.1, ?_⟩, ?_⟩
    · rw [whole, same]
    · rw [whole, free, params_words]
  · cases legible

/-- A name is read as itself, whatever characters are in it. -/
theorem legible_name (spelling : String) : (Fragment.name spelling).Legible := by
  refine ⟨?_, rfl⟩
  rw [chars_name, Name.chars]
  split
  · rename_i wildcard
    exact ⟨[.name Name.wildcard], .between, by decide, rfl, by rw [wildcard]; rfl⟩
  · refine ⟨[], .closing spelling.toList, ?_, rfl, ?_⟩
    · have opened : run .between [Name.delimiter] = some ([], .name []) := by decide
      have closed : run (.name spelling.toList) [Name.delimiter] =
          some ([], .closing spelling.toList) := by
        simp [step, extend?, run]
      have inside := run_append (run_doubled [] spelling.toList) closed
      simpa using run_append opened inside
    · rw [Mode.pending, String.ofList_toList]
      rfl

theorem legible_bind (value : Value) : (bind value).Legible := by
  refine ⟨⟨[.placeholder ()], .between, ?_, rfl, rfl⟩, rfl⟩
  rw [chars_bind]
  decide

/-- Fragments with legible words between that keep them apart. -/
theorem legible_joined {separator : String} {fragments : List Fragment}
    (between : (words separator).Legible) (starts : (words separator).startsAtBorder = true)
    (ends : (words separator).endsAtBorder = true)
    (legible : ∀ fragment ∈ fragments, fragment.Legible) :
    (joined separator fragments).Legible := by
  induction fragments with
  | nil => exact legible_empty
  | cons first rest ih =>
      have here := legible first List.mem_cons_self
      have others := ih fun fragment member => legible fragment (List.mem_cons_of_mem _ member)
      cases rest with
      | nil => exact here
      | cons second more =>
          rw [joined_cons_cons]
          exact (here.append between (Or.inr starts)).append others
            (Or.inl (endsAtBorder_append _ ends))

theorem legible_column (reference : ColumnRef) : (column reference).Legible := by
  rw [column]
  split
  · have point : (words ".").Legible := legible_words (by decide)
    have dotted := (legible_name ‹String›).append point (Or.inr (by decide))
    exact dotted.append (legible_name _) (Or.inl (endsAtBorder_append _ (by decide)))
  · exact legible_name _

/-- The statement of a legible fragment has the tokens of its pieces. -/
theorem Legible.tokens?_statement {fragment : Fragment} (legible : fragment.Legible)
    {statement : Statement} (success : fragment.statement = .ok statement) :
    statement.tokens? = some fragment.tokens := by
  obtain ⟨-, rfl⟩ := statement_eq_ok success
  obtain ⟨tokens, last, read, closed, same⟩ := legible.reads
  rw [Statement.tokens?, Lexer.tokens?, ← chars, read, Option.bind_some, if_pos closed,
    Option.bind_some, same, ← legible.bound, Token.bindAll?_forget]

end Fragment

end EntityMapper
