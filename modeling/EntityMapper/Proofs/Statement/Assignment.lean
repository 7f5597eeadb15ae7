import EntityMapper.Proofs.Filter.Legible
import EntityMapper.Proofs.Statement.Structure

set_option autoImplicit false

/-! What a statement gives to columns, as it is read from its text: the columns of a new row with
the values at their places, and the columns that a change sets. -/

namespace EntityMapper

open Fragment Outcome

namespace Token

variable {α : Type}

def name? : Token α → Option String
  | .name spelling => some spelling
  | _ => none

/-- Columns and the placeholders that they are set to, with commas between, up to what is no such
pair. -/
def assignments : List (Token α) → List (String × α)
  | .name column :: .comparison "=" :: .placeholder value :: .mark ',' :: rest =>
      (column, value) :: assignments rest
  | .name column :: .comparison "=" :: .placeholder value :: _ => [(column, value)]
  | _ => []

/-- The columns that get a value, each with what is bound for it. -/
def assigned : List (Token α) → List (String × α)
  | .word "INSERT" :: .word "INTO" :: .name _ :: rest => (rest.filterMap name?).zip (bounds rest)
  | .word "UPDATE" :: .name _ :: .word "SET" :: rest => assignments rest
  | _ => []

end Token

/-- What a statement gives to columns. -/
def Statement.assigned (statement : Statement) : List (String × Value) :=
  Token.assigned (statement.tokens?.getD [])

namespace Fragment

/-- What is collected from tokens is collected from each of the fragments between commas. -/
theorem collect_joined {β : Type} {collect : List (Token Value) → List β}
    (append : ∀ left right, collect (left ++ right) = collect left ++ collect right)
    (nothing : collect [] = []) (comma : collect [.mark ','] = []) (fragments : List Fragment) :
    collect (joined ", " fragments).tokens = fragments.flatMap fun each => collect each.tokens := by
  induction fragments with
  | nil => exact nothing
  | cons first rest ih =>
      cases rest with
      | nil => rw [joined_singleton, List.flatMap_singleton]
      | cons second others =>
          have between : (words ", ").tokens = [.mark ','] := rfl
          rw [joined_cons_cons, tokens_append, tokens_append, append, append, ih, between, comma,
            List.append_nil]
          rfl

end Fragment

namespace Query

theorem legible_inserted (table : String) (values : List (String × Value)) :
    (inserted table values).Legible := by
  have comma : (words ", ").Legible := legible_words (by decide)
  have columns : (insertColumns values).Legible := by
    refine legible_joined comma (by decide) (by decide) fun fragment member => ?_
    obtain ⟨entry, -, rfl⟩ := List.mem_map.1 member
    exact legible_name entry.1
  have binds : (joined ", " (values.map fun entry => bind entry.2)).Legible := by
    refine legible_joined comma (by decide) (by decide) fun fragment member => ?_
    obtain ⟨entry, -, rfl⟩ := List.mem_map.1 member
    exact legible_bind entry.2
  have into : (words "INSERT INTO " ++ .name table ++ words " (").Legible :=
    ((legible_words (by decide)).append (legible_name table) (Or.inl (by decide))).append
      (legible_words (by decide)) (Or.inr (by decide))
  have named := (into.append columns (Or.inl (endsAtBorder_append _ (by decide)))).append
    (legible_words (by decide : wordsAreLegible ") VALUES (" = true)) (Or.inr (by decide))
  exact (named.append binds (Or.inl (endsAtBorder_append _ (by decide)))).append
    (legible_words (by decide)) (Or.inr (by decide))

/-- A new row gives its values to its columns. -/
theorem assigned_inserted (table : String) (values : List (String × Value)) :
    Token.assigned (inserted table values).tokens = values := by
  have names : (insertColumns values).tokens.filterMap Token.name? = values.map Prod.fst := by
    rw [insertColumns, collect_joined (fun _ _ => List.filterMap_append) rfl rfl,
      List.flatMap_map]
    exact List.map_eq_flatMap.symm
  have unbound : Token.bounds (insertColumns values).tokens = [] := by
    rw [insertColumns, collect_joined Token.bounds_append rfl rfl, List.flatMap_map]
    exact List.flatMap_eq_nil_iff.2 fun _ _ => rfl
  have nameless : (joined ", " (values.map fun entry => bind entry.2)).tokens.filterMap
      Token.name? = [] := by
    rw [collect_joined (fun _ _ => List.filterMap_append) rfl rfl, List.flatMap_map]
    exact List.flatMap_eq_nil_iff.2 fun _ _ => rfl
  have bound : Token.bounds (joined ", " (values.map fun entry => bind entry.2)).tokens =
      values.map Prod.snd := by
    rw [collect_joined Token.bounds_append rfl rfl, List.flatMap_map]
    exact List.map_eq_flatMap.symm
  have whole : (inserted table values).tokens = .word "INSERT" :: .word "INTO" :: .name table ::
      ([Token.mark '('] ++ (insertColumns values).tokens ++
        [Token.mark ')', .word "VALUES", .mark '('] ++
        (joined ", " (values.map fun entry => bind entry.2)).tokens ++
        [Token.mark ')', .mark ';']) := by
    simp only [inserted, tokens_append]
    rfl
  rw [whole, Token.assigned]
  simp only [List.filterMap_append, Token.bounds_append, names, unbound, nameless, bound]
  change ([] ++ values.map Prod.fst ++ [] ++ [] ++ []).zip ([] ++ [] ++ [] ++ values.map Prod.snd ++
    []) = values
  simp only [List.nil_append, List.append_nil]
  exact List.zip_map'.trans (List.map_id values)

theorem legible_assignment (entry : String × Value) : (assignment entry).Legible :=
  ((legible_name entry.1).append (legible_words (by decide)) (Or.inr (by decide))).append
    (legible_bind entry.2) (Or.inl (endsAtBorder_append _ (by decide)))

theorem legible_updated (table : String) {values : List (String × Value)} (occupied : values ≠ [])
    (filter : Filter) : (updated table values filter).Legible := by
  have comma : (words ", ").Legible := legible_words (by decide)
  have assignments : (joined ", " (values.map assignment)).Legible := by
    refine legible_joined comma (by decide) (by decide) fun fragment member => ?_
    obtain ⟨entry, -, rfl⟩ := List.mem_map.1 member
    exact legible_assignment entry
  have start : (words "UPDATE " ++ .name table ++ words " SET ").Legible :=
    ((legible_words (by decide)).append (legible_name table) (Or.inl (by decide))).append
      (legible_words (by decide)) (Or.inr (by decide))
  have listed : Fragment.listed " SET " (values.map assignment) =
      words " SET " ++ joined ", " (values.map assignment) := by
    rw [Fragment.listed, if_neg (by simpa using occupied)]
  rw [updated, listed, ← append_assoc]
  exact Filter.legible_claused
    (start.append assignments (Or.inl (endsAtBorder_append _ (by decide)))) filter
    (legible_words (by decide)) (by decide)

/-- Assignments are read up to what does not go on with a comma. -/
theorem assignments_joined {values : List (String × Value)} (occupied : values ≠ [])
    {rest : List (Token Value)} (ended : rest.head? ≠ some (.mark ',')) :
    Token.assignments ((joined ", " (values.map assignment)).tokens ++ rest) = values := by
  induction values with
  | nil => exact absurd rfl occupied
  | cons first others ih =>
      have here : (assignment first).tokens =
          [.name first.1, .comparison "=", .placeholder first.2] := rfl
      cases others with
      | nil =>
          rw [List.map_singleton, joined_singleton, here]
          cases rest with
          | nil => rfl
          | cons token following =>
              change Token.assignments (.name first.1 :: .comparison "=" :: .placeholder first.2 ::
                token :: following) = [first]
              rw [Token.assignments]
              rintro more same
              exact ended (congrArg List.head? same)
      | cons second more =>
          have between : (words ", ").tokens = [.mark ','] := rfl
          have later := ih (List.cons_ne_nil second more)
          rw [List.map_cons, List.map_cons, joined_cons_cons, ← List.map_cons, tokens_append,
            tokens_append, here, between, List.append_assoc, List.append_assoc]
          change Token.assignments (.name first.1 :: .comparison "=" :: .placeholder first.2 ::
            .mark ',' :: _) = _
          rw [Token.assignments]
          exact congrArg (List.cons first) later

/-- A change sets its columns to its values, whatever it changes. -/
theorem assigned_updated (table : String) {values : List (String × Value)}
    (occupied : values ≠ []) (filter : Filter) :
    Token.assigned (updated table values filter).tokens = values := by
  have ended : ((Filter.clause filter).tokens ++ [Token.mark ';']).head? ≠
      some (.mark ',') := by
    rcases Filter.tokens_clause filter with vacant | ⟨rest, written⟩
    · rw [vacant]
      simp
    · rw [written]
      exact nofun
  have whole : (updated table values filter).tokens = .word "UPDATE" :: .name table ::
      .word "SET" :: ((joined ", " (values.map assignment)).tokens ++
        ((Filter.clause filter).tokens ++ [.mark ';'])) := by
    rw [updated, listed, if_neg (by simpa using occupied), ← List.append_assoc]
    simp only [tokens_append]
    rfl
  rw [whole, Token.assigned]
  exact assignments_joined occupied ended

/-- A statement that is compiled for a new row gives it the values that are listed. -/
theorem assigned_insert {table : String} {values : List (String × Value)} {fragment : Fragment}
    {statement : Statement} (success : insert table values = .ok fragment)
    (written : fragment.statement = .ok statement) : statement.assigned = values := by
  obtain rfl := insert_eq_ok success
  rw [Statement.assigned, (legible_inserted table values).tokens?_statement written,
    Option.getD_some, assigned_inserted]

theorem assigned_update {table : String} {values : List (String × Value)} {filter : Filter}
    {fragment : Fragment} {statement : Statement}
    (success : update table values filter = .ok fragment)
    (written : fragment.statement = .ok statement) : statement.assigned = values := by
  have occupied : values ≠ [] := by
    rintro rfl
    obtain ⟨start, -, failed⟩ := bind_eq_ok success
    cases failed
  obtain rfl := update_eq_ok success
  rw [Statement.assigned, (legible_updated table occupied filter).tokens?_statement written,
    Option.getD_some, assigned_updated table occupied filter]

/-- A lookup gives nothing to any column. -/
theorem assigned_findOne {table : String} {filter : Filter} {statement : Statement}
    (written : (findOne (.named table) filter default).statement = .ok statement) :
    statement.assigned = [] := by
  have whole : findOne (.named table) filter default =
      words "SELECT *" ++ words " FROM " ++ .name table ++ Filter.clause filter ++
        (Page.single.clause ++ words ";") := by
    change words "SELECT *" ++ (words " FROM " ++ .name table) ++ empty ++ Filter.clause filter ++
      empty ++ empty ++ Page.single.clause ++ words ";" = _
    simp only [append_empty, append_assoc]
  have start : (words "SELECT *" ++ words " FROM " ++ .name table).Legible :=
    ((legible_words (by decide)).append (legible_words (by decide)) (Or.inr (by decide))).append
      (legible_name table) (Or.inl (endsAtBorder_append _ (by decide)))
  have page : (Page.single.clause ++ words ";").Legible :=
    ((((legible_words (by decide)).append (legible_bind _) (Or.inl (by decide))).append
      (legible_words (by decide)) (Or.inr (by decide))).append (legible_bind _)
      (Or.inl (endsAtBorder_append _ (by decide)))).append (legible_words (by decide))
      (Or.inr (by decide))
  have legible := Filter.legible_claused start filter page (by decide)
  rw [← whole] at legible
  rw [Statement.assigned, legible.tokens?_statement written, Option.getD_some, whole]
  simp only [tokens_append, List.append_assoc]
  rfl

end Query

end EntityMapper
