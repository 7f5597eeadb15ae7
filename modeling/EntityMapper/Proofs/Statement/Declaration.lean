import EntityMapper.Proofs.Statement.Assignment
import EntityMapper.Schema.EntitySchema

set_option autoImplicit false

/-! Which columns of a new table have to have a value, as it is read from the text of the statement
that creates the table. -/

namespace EntityMapper

open Fragment Lexer

namespace Token

variable {α : Type}

def isName (token : Token α) : Bool := token.name?.isSome

def isClosing : Token α → Bool
  | .mark ')' => true
  | _ => false

/-- What is left behind a size in parentheses, if there is one. -/
def afterSize : List (Token α) → List (Token α)
  | .mark '(' :: rest => (rest.dropWhile fun token => !token.isClosing).tail
  | tokens => tokens

/-- Whether a column of a type, with or without a size, is declared as `NOT NULL`. -/
def excludesNull : List (Token α) → Bool
  | .word _ :: rest =>
      match afterSize rest with
      | .word "NOT" :: .word "NULL" :: _ => true
      | _ => false
  | _ => false

/-- The names behind which a type stands that is declared as `NOT NULL`. -/
def required : List (Token α) → List String
  | [] => []
  | .name spelling :: rest =>
      if excludesNull (rest.takeWhile fun token => !token.isName) then spelling :: required rest
      else required rest
  | _ :: rest => required rest

theorem required_of_nameless {tokens : List (Token α)}
    (nameless : ∀ token ∈ tokens, token.isName = false) : required tokens = [] := by
  induction tokens with
  | nil => rfl
  | cons token rest ih =>
      obtain ⟨here, others⟩ := List.forall_mem_cons.1 nameless
      cases token with
      | name spelling => cases here
      | _ => exact ih others

theorem takeWhile_nameless {tokens : List (Token α)}
    (nameless : ∀ token ∈ tokens, token.isName = false) (rest : List (Token α)) :
    (tokens ++ rest).takeWhile (fun token => !token.isName) =
      tokens ++ rest.takeWhile fun token => !token.isName :=
  List.takeWhile_append_of_pos fun token member => by rw [nameless token member]; rfl

/-- A name ends what stands behind the name before it. -/
theorem required_append (left : List (Token α)) (spelling : String) (right : List (Token α)) :
    required (left ++ .name spelling :: right) =
      required left ++ required (.name spelling :: right) := by
  induction left with
  | nil => rfl
  | cons token rest ih =>
      cases token with
      | name other =>
          have cut : (rest ++ .name spelling :: right).takeWhile (fun token => !token.isName) =
              rest.takeWhile fun token => !token.isName := by
            rw [List.takeWhile_append]
            split
            · rename_i whole
              rw [List.takeWhile_cons_of_neg (by exact Bool.false_ne_true), List.append_nil]
              exact ((List.takeWhile_prefix _).eq_of_length whole).symm
            · rfl
          rw [List.cons_append, required, required, cut, ih]
          split <;> rfl
      | _ => exact ih

end Token

/-- The columns that a statement declares as `NOT NULL`. -/
def Statement.required (statement : Statement) : List String :=
  Token.required (statement.tokens?.getD [])

namespace Fragment

theorem forget_of_unbound {tokens : List (Token Value)} (unbound : Token.bounds tokens = []) :
    (tokens.map (Token.map fun _ => ())).map (Token.map fun _ => Value.null) = tokens := by
  induction tokens with
  | nil => rfl
  | cons token rest ih =>
      cases token with
      | placeholder bound => cases unbound
      | _ => exact congrArg (List.cons _) (ih unbound)

/-- A text is read as a fragment that is put together from its parts. -/
theorem Legible.as_words {fragment : Fragment} (legible : fragment.Legible)
    (unbound : fragment.params = []) (text : String) (same : text.toList = fragment.chars) :
    (words text).Legible ∧ (words text).tokens = fragment.tokens := by
  obtain ⟨⟨tokens, last, read, closed, split⟩, bound⟩ := legible
  have whole : (words text).tokens = fragment.tokens := by
    rw [Fragment.tokens, words, List.flatMap_singleton, Piece.tokens, Lexer.tokens?, same, read,
      Option.bind_some, if_pos closed, Option.getD_some, split]
    exact forget_of_unbound (bound.trans unbound)
  have scanned : Lexer.run .between (words text).chars = some (tokens, last) := by
    rw [chars_words, same, read]
  refine ⟨⟨⟨tokens, last, scanned, closed, by rw [whole, split]⟩, ?_⟩, whole⟩
  rw [whole, bound, unbound]
  rfl

/-- Whether a fragment does not go on with the token before it. -/
def SetsApart (fragment : Fragment) : Prop :=
  fragment.chars = [] ∨ fragment.startsAtBorder = true

theorem Legible.append_apart {left right : Fragment} (first : left.Legible)
    (second : right.Legible) (apart : right.SetsApart) : (left ++ right).Legible := by
  rcases apart with silent | border
  · obtain ⟨tokens, last, read, -, same⟩ := second.reads
    rw [silent, run_nil, Option.some.injEq, Prod.mk.injEq] at read
    obtain ⟨rfl, rfl⟩ := read
    have nothing : right.tokens = [] := List.map_eq_nil_iff.1 same.symm
    have unbound : right.params = [] := by
      rw [← second.bound, nothing]
      rfl
    refine ⟨?_, ?_⟩
    · rw [chars_append, silent, tokens_append, nothing, List.append_nil, List.append_nil]
      exact first.reads
    · rw [tokens_append, params_append, nothing, unbound, List.append_nil, List.append_nil]
      exact first.bound
  · exact first.append second (Or.inr border)

theorem setsApart_words_if (condition : Bool) {text : String}
    (border : (words text).startsAtBorder = true) :
    (words (if condition then text else "")).SetsApart := by
  cases condition with
  | false => exact Or.inl (chars_words "")
  | true => exact Or.inr border

theorem run_letters (read : List Char) {letters : List Char}
    (all : ∀ c ∈ letters, isLetter c = true) :
    run (.word read) letters = some ([], .word (read ++ letters)) := by
  induction letters generalizing read with
  | nil => rw [run_nil, List.append_nil]
  | cons c rest ih =>
      obtain ⟨here, others⟩ := List.forall_mem_cons.1 all
      rw [run_cons, step, extend?, if_pos here, Option.bind_some, ih _ others, Option.map_some,
        List.append_assoc]
      rfl

theorem step_digit {c : Char} (digit : c.isDigit = true) :
    step .between c = some ([], .word [c]) := by
  have visible : c.isWhitespace = false := by
    rw [Bool.eq_false_iff]
    intro blank
    simp only [Char.isWhitespace, Bool.or_eq_true, decide_eq_true_eq] at blank
    rcases blank with ((rfl | rfl) | rfl) | rfl <;> revert digit <;> decide
  have other : c ≠ Name.delimiter := by
    rintro rfl
    revert digit
    decide
  have letter : isLetter c = true := by simp [isLetter, Char.isAlphanum, digit]
  rw [step, extend?, start, visible, if_neg Bool.false_ne_true, if_neg other, if_pos letter]
  rfl

/-- A number is read as one word. -/
theorem legible_natural (n : Nat) :
    (words (Text.natural n)).Legible ∧
      (words (Text.natural n)).tokens = [.word (Text.natural n)] := by
  have digits : ∀ c ∈ (Text.natural n).toList, c.isDigit = true := by
    intro c member
    rw [Text.natural, String.toList_ofList] at member
    exact Nat.isDigit_of_mem_toDigits (by decide) (by decide) member
  have some : (Text.natural n).toList ≠ [] := by
    rw [Text.natural, String.toList_ofList]
    exact Nat.toDigits_ne_nil
  have read : run .between (Text.natural n).toList =
      Option.some ([], .word (Text.natural n).toList) := by
    cases spelled : (Text.natural n).toList with
    | nil => exact absurd spelled some
    | cons c rest =>
        rw [spelled] at digits
        obtain ⟨here, others⟩ := List.forall_mem_cons.1 digits
        have letters : ∀ d ∈ rest, isLetter d = true := fun d member => by
          simp [isLetter, Char.isAlphanum, others d member]
        rw [run_cons, step_digit here, Option.bind_some, run_letters _ letters]
        rfl
  have legible : wordsAreLegible (Text.natural n) = true := by
    rw [wordsAreLegible, read]
    rfl
  refine ⟨legible_words legible, ?_⟩
  rw [Fragment.tokens, words, List.flatMap_singleton, Piece.tokens, Lexer.tokens?, read]
  simp [Mode.isClosed, Mode.pending, Token.map]

end Fragment

namespace ColumnSpec

variable (type : DataType) (spec : ColumnSpec)

/-- A size is read as a group of words in parentheses. -/
theorem legible_sizeText :
    (words (spec.sizeText type)).Legible ∧ ((words (spec.sizeText type)).tokens = [] ∨
      ∃ inside : List (Token Value),
        (∀ token ∈ inside, token.isName = false ∧ token.isClosing = false) ∧
        (words (spec.sizeText type)).tokens = .mark '(' :: (inside ++ [.mark ')'])) := by
  have opening : (words "(").Legible := legible_words (by decide)
  have closing : (words ")").Legible := legible_words (by decide)
  have comma : (words ",").Legible := legible_words (by decide)
  cases type with
  | varchar =>
      obtain ⟨digits, read⟩ := legible_natural (spec.size.getD 255)
      have bracketed := (opening.append digits (Or.inl (by decide))).append closing
        (Or.inr (by decide))
      obtain ⟨legible, tokens⟩ := bracketed.as_words rfl (spec.sizeText .varchar)
        (by simp [sizeText, String.toList_append])
      refine ⟨legible, Or.inr ⟨(words (Text.natural (spec.size.getD 255))).tokens, ?_, ?_⟩⟩
      · rw [read, List.forall_mem_singleton]
        exact ⟨rfl, rfl⟩
      · rw [tokens]
        simp only [tokens_append, List.append_assoc]
        rfl
  | decimal =>
      obtain ⟨digits, read⟩ := legible_natural (spec.size.getD 10)
      obtain ⟨decimals, readDecimals⟩ := legible_natural (spec.scale.getD 2)
      have both := ((opening.append digits (Or.inl (by decide))).append comma
        (Or.inr (by decide))).append decimals (Or.inl (endsAtBorder_append _ (by decide)))
      have bracketed := both.append closing (Or.inr (by decide))
      obtain ⟨legible, tokens⟩ := bracketed.as_words rfl (spec.sizeText .decimal)
        (by simp [sizeText, String.toList_append])
      refine ⟨legible, Or.inr ⟨(words (Text.natural (spec.size.getD 10))).tokens ++ [.mark ','] ++
        (words (Text.natural (spec.scale.getD 2))).tokens, ?_, ?_⟩⟩
      · rw [read, readDecimals]
        simp [Token.isName, Token.name?, Token.isClosing]
      · rw [tokens]
        simp only [tokens_append, List.append_assoc]
        rfl
  | _ => exact ⟨legible_words (rfl : wordsAreLegible "" = true), Or.inl rfl⟩

theorem setsApart_sizeText : (words (spec.sizeText type)).SetsApart := by
  have border : isBorder '(' = true := by decide
  rw [SetsApart, startsAtBorder, chars_words]
  cases type with
  | varchar =>
      simp only [sizeText, String.toList_append]
      exact Or.inr border
  | decimal =>
      simp only [sizeText, String.toList_append]
      exact Or.inr border
  | _ => exact Or.inl rfl

theorem legible_initialFragment :
    spec.initialFragment.Legible ∧ spec.initialFragment.SetsApart := by
  rw [initialFragment]
  split
  · refine ⟨(legible_words (by decide)).append (legible_bind _) (Or.inl (by decide)), Or.inr ?_⟩
    rw [startsAtBorder, chars_append, chars_words]
    rfl
  · exact ⟨legible_empty, Or.inl chars_empty⟩

theorem legible_fragment : (spec.fragment type).Legible ∧ (spec.fragment type).SetsApart := by
  have word : wordsAreLegible type.word = true := by cases type <;> decide
  have nullable : wordsAreLegible (if spec.nullable then " NULL" else " NOT NULL") = true := by
    split <;> decide
  have unique : wordsAreLegible (if spec.unique && type.admitsUnique then " UNIQUE" else "") =
      true := by
    split <;> rfl
  have counted : wordsAreLegible
      (if spec.autoIncrement && type.isInteger then " AUTO_INCREMENT" else "") = true := by
    split <;> rfl
  have border : (words (if spec.nullable then " NULL" else " NOT NULL")).SetsApart := by
    split <;> exact Or.inr (by decide)
  have declared := ((((((legible_words (by decide : wordsAreLegible " " = true)).append
    (legible_words word) (Or.inl (by decide))).append_apart (legible_sizeText type spec).1
    (setsApart_sizeText type spec)).append_apart (legible_words nullable) border).append_apart
    (legible_words unique) (setsApart_words_if _ (by decide))).append_apart (legible_words counted)
    (setsApart_words_if _ (by decide))).append_apart spec.legible_initialFragment.1
    spec.legible_initialFragment.2
  refine ⟨declared, Or.inr ?_⟩
  simp only [fragment, append_assoc]
  rw [startsAtBorder, chars_append, chars_words]
  rfl

/-- A declaration is read as a type, a size if there is one, whether null is admitted, and further
attributes. -/
theorem tokens_fragment : ∃ size attributes : List (Token Value),
    (spec.fragment type).tokens = .word type.word :: (size ++
      (if spec.nullable then [Token.word "NULL"] else [Token.word "NOT", .word "NULL"]) ++
        attributes) ∧
    (size = [] ∨ ∃ inside : List (Token Value),
      (∀ token ∈ inside, token.isName = false ∧ token.isClosing = false) ∧
        size = .mark '(' :: (inside ++ [Token.mark ')'])) ∧
    ∀ token ∈ attributes, token.isName = false := by
  have word : (words type.word).tokens = [.word type.word] := by cases type <;> rfl
  have null : (words (if spec.nullable then " NULL" else " NOT NULL")).tokens =
      if spec.nullable then [.word "NULL"] else [.word "NOT", .word "NULL"] := by
    split <;> rfl
  refine ⟨(words (spec.sizeText type)).tokens,
    (words (if spec.unique && type.admitsUnique then " UNIQUE" else "")).tokens ++
      (words (if spec.autoIncrement && type.isInteger then " AUTO_INCREMENT" else "")).tokens ++
      spec.initialFragment.tokens, ?_, (legible_sizeText type spec).2, ?_⟩
  · simp only [fragment, tokens_append, word, null, List.append_assoc]
    rfl
  · refine List.forall_mem_append.2 ⟨List.forall_mem_append.2 ⟨?_, ?_⟩, ?_⟩
    · split
      · exact List.forall_mem_singleton.2 rfl
      · exact List.forall_mem_nil _
    · split
      · exact List.forall_mem_singleton.2 rfl
      · exact List.forall_mem_nil _
    · rw [initialFragment]
      split
      · exact List.forall_mem_cons.2 ⟨rfl, List.forall_mem_singleton.2 rfl⟩
      · exact List.forall_mem_nil _

theorem nameless_fragment : ∀ token ∈ (spec.fragment type).tokens, token.isName = false := by
  obtain ⟨size, attributes, whole, group, others⟩ := tokens_fragment type spec
  have sized : ∀ token ∈ size, token.isName = false := by
    rcases group with rfl | ⟨inside, free, rfl⟩
    · exact List.forall_mem_nil _
    · exact List.forall_mem_cons.2 ⟨rfl, List.forall_mem_append.2
        ⟨fun token member => (free token member).1, List.forall_mem_singleton.2 rfl⟩⟩
  rw [whole]
  refine List.forall_mem_cons.2 ⟨rfl, List.forall_mem_append.2
    ⟨List.forall_mem_append.2 ⟨sized, ?_⟩, others⟩⟩
  split
  · exact List.forall_mem_singleton.2 rfl
  · exact List.forall_mem_cons.2 ⟨rfl, List.forall_mem_singleton.2 rfl⟩

/-- Whatever stands behind its declaration, a column excludes null iff it is not nullable. -/
theorem excludesNull_fragment (rest : List (Token Value)) :
    Token.excludesNull ((spec.fragment type).tokens ++ rest) = !spec.nullable := by
  obtain ⟨size, attributes, whole, group, -⟩ := tokens_fragment type spec
  have skipped : ∀ following : List (Token Value), following.head? ≠ some (.mark '(') →
      Token.afterSize (size ++ following) = following := by
    intro following other
    rcases group with rfl | ⟨inside, free, rfl⟩
    · cases following with
      | nil => rfl
      | cons token rest =>
          rw [List.nil_append, Token.afterSize]
          rintro more same
          exact other (congrArg List.head? same)
    · have closes : (inside ++ [Token.mark ')'] ++ following).dropWhile
          (fun token => !token.isClosing) = .mark ')' :: following := by
        rw [List.append_assoc, List.dropWhile_append_of_pos fun token member => by
          rw [(free token member).2]; rfl]
        rfl
      rw [List.cons_append, Token.afterSize, closes]
      rfl
  rw [whole, List.cons_append, Token.excludesNull, List.append_assoc, List.append_assoc]
  cases nullable : spec.nullable with
  | true =>
      rw [if_pos rfl, skipped _ (by simp)]
      rfl
  | false =>
      rw [if_neg Bool.false_ne_true, skipped _ (by simp)]
      rfl

end ColumnSpec

namespace TableColumn

theorem legible_fragment (column : TableColumn) : column.fragment.Legible := by
  obtain ⟨spec, apart⟩ := ColumnSpec.legible_fragment column.type column.spec
  have declared := (legible_name column.name).append_apart spec apart
  have key : (words ", PRIMARY KEY (" ++ .name column.name ++ words ")").Legible :=
    ((legible_words (by decide)).append (legible_name column.name) (Or.inl (by decide))).append
      (legible_words (by decide)) (Or.inr (by decide))
  rw [fragment]
  split
  · refine declared.append_apart key (Or.inr ?_)
    rw [startsAtBorder, chars_append, chars_append, chars_words]
    rfl
  · exact declared.append_apart legible_empty (Or.inl chars_empty)

/-- The name of a column comes first. -/
theorem tokens_fragment (column : TableColumn) :
    ∃ key : List (Token Value), column.fragment.tokens =
        .name column.name :: ((column.spec.fragment column.type).tokens ++ key) ∧
      (key = [] ∨ key = [.mark ',', .word "PRIMARY", .word "KEY", .mark '(', .name column.name,
        .mark ')']) := by
  rw [fragment]
  split
  · exact ⟨_, by simp only [tokens_append, tokens_name, List.append_assoc]; rfl, Or.inr rfl⟩
  · exact ⟨[], by simp only [tokens_append, tokens_name, List.append_assoc]; rfl, Or.inl rfl⟩

/-- A column is required as it is declared, and its key declaration requires nothing more. -/
theorem required_fragment (column : TableColumn) {rest : List (Token Value)}
    (nameless : ∀ token ∈ rest, token.isName = false) :
    Token.required (column.fragment.tokens ++ rest) =
      if column.spec.nullable then [] else [column.name] := by
  obtain ⟨key, whole, keyed⟩ := column.tokens_fragment
  have own := ColumnSpec.nameless_fragment column.type column.spec
  have alone : ∀ behind : List (Token Value), (∀ token ∈ behind, token.isName = false) →
      Token.required (.name column.name ::
          ((column.spec.fragment column.type).tokens ++ behind)) =
        if column.spec.nullable then [] else [column.name] := by
    intro behind free
    rw [Token.required, Token.takeWhile_nameless own, ColumnSpec.excludesNull_fragment,
      Token.required_of_nameless (List.forall_mem_append.2 ⟨own, free⟩)]
    cases column.spec.nullable <;> rfl
  rw [whole]
  rcases keyed with rfl | rfl
  · rw [List.append_nil]
    exact alone rest nameless
  · -- The name is there again, but no type stands behind it.
    have cut : Token.name column.name :: ((column.spec.fragment column.type).tokens ++
        [Token.mark ',', .word "PRIMARY", .word "KEY", .mark '(', .name column.name, .mark ')']) ++
          rest =
        .name column.name :: ((column.spec.fragment column.type).tokens ++
          [Token.mark ',', .word "PRIMARY", .word "KEY", .mark '(']) ++
            .name column.name :: (.mark ')' :: rest) := by
      simp only [List.cons_append, List.append_assoc, List.nil_append]
    have again : Token.required (.name column.name :: .mark ')' :: rest) = [] := by
      rw [Token.required, List.takeWhile_cons_of_pos rfl]
      exact Token.required_of_nameless (List.forall_mem_cons.2 ⟨rfl, nameless⟩)
    rw [cut, Token.required_append, again, List.append_nil]
    exact alone _ (by simp [Token.isName, Token.name?])

end TableColumn

namespace Table

theorem legible_created (table : String) (ifNotExists : Bool) (columns : List TableColumn) :
    (created table ifNotExists columns).Legible := by
  have comma : (words ", ").Legible := legible_words (by decide)
  have declarations : (joined ", " (columns.map TableColumn.fragment)).Legible := by
    refine legible_joined comma (by decide) (by decide) fun fragment member => ?_
    obtain ⟨column, -, rfl⟩ := List.mem_map.1 member
    exact column.legible_fragment
  have guard : wordsAreLegible (if ifNotExists then "IF NOT EXISTS " else "") = true := by
    cases ifNotExists <;> rfl
  have start : (words "CREATE TABLE " ++ words (if ifNotExists then "IF NOT EXISTS " else "") ++
      .name table).Legible := by
    refine ((legible_words (by decide)).append (legible_words guard) (Or.inl (by decide))).append
      (legible_name table) (Or.inl ?_)
    cases ifNotExists <;> decide
  exact ((start.append (legible_words (by decide : wordsAreLegible " (" = true))
    (Or.inr (by decide))).append declarations (Or.inl (endsAtBorder_append _ (by decide)))).append
    (legible_words (by decide)) (Or.inr (by decide))

/-- Declarations begin with the name of the first column. -/
theorem tokens_joined_cons (column : TableColumn) (others : List TableColumn) :
    ∃ behind, (joined ", " ((column :: others).map TableColumn.fragment)).tokens =
      .name column.name :: behind := by
  obtain ⟨key, whole, -⟩ := column.tokens_fragment
  cases others with
  | nil => exact ⟨_, whole⟩
  | cons second more =>
      rw [List.map_cons, List.map_cons, joined_cons_cons, tokens_append, tokens_append, whole]
      exact ⟨_, rfl⟩

/-- Each column is required as it is declared itself. -/
theorem required_joined (columns : List TableColumn) {rest : List (Token Value)}
    (nameless : ∀ token ∈ rest, token.isName = false) :
    Token.required ((joined ", " (columns.map TableColumn.fragment)).tokens ++ rest) =
      (columns.filter fun column => !column.spec.nullable).map TableColumn.name := by
  induction columns with
  | nil => exact Token.required_of_nameless nameless
  | cons first others ih =>
      have split : ((first :: others).filter fun column => !column.spec.nullable).map
          TableColumn.name = (if first.spec.nullable then [] else [first.name]) ++
            (others.filter fun column => !column.spec.nullable).map TableColumn.name := by
        rw [List.filter_cons]
        cases first.spec.nullable <;> rfl
      rw [split, ← ih]
      cases others with
      | nil =>
          have silent : Token.required ((joined ", " ([].map TableColumn.fragment)).tokens ++
              rest) = [] := Token.required_of_nameless nameless
          rw [silent, List.append_nil]
          exact first.required_fragment nameless
      | cons second more =>
          obtain ⟨behind, whole⟩ := tokens_joined_cons second more
          have between : (words ", ").tokens = [.mark ','] := rfl
          rw [List.map_cons, List.map_cons, joined_cons_cons, ← List.map_cons, tokens_append,
            tokens_append, between, whole, List.append_assoc, List.cons_append,
            Token.required_append, first.required_fragment (List.forall_mem_singleton.2 rfl)]

/-- A new table requires the columns that are not nullable. -/
theorem required_created {table : String} {ifNotExists : Bool} {columns : List TableColumn}
    {fragment : Fragment} {statement : Statement}
    (success : create table ifNotExists columns = .ok fragment)
    (written : fragment.statement = .ok statement) :
    statement.required =
      (columns.filter fun column => !column.spec.nullable).map TableColumn.name := by
  cases columns with
  | nil => cases success
  | cons first others =>
      obtain rfl := create_eq_ok success
      obtain ⟨behind, whole⟩ := tokens_joined_cons first others
      have finish : (words ");").tokens = [.mark ')', .mark ';'] := rfl
      have nameless : ∀ token ∈ (words ");").tokens, token.isName = false := by
        rw [finish]
        exact List.forall_mem_cons.2 ⟨rfl, List.forall_mem_singleton.2 rfl⟩
      -- No type stands behind the name of the table.
      have start : Token.required (words "CREATE TABLE " ++
          words (if ifNotExists then "IF NOT EXISTS " else "") ++ .name table ++
          words " (").tokens = [] := by
        cases ifNotExists <;> rfl
      rw [Statement.required,
        (legible_created table ifNotExists (first :: others)).tokens?_statement written,
        Option.getD_some, ← required_joined _ nameless, created, tokens_append, tokens_append,
        whole, List.append_assoc, List.cons_append, Token.required_append, start, List.nil_append]

end Table

end EntityMapper
