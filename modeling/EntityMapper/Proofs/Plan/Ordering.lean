import EntityMapper.Proofs.Plan.Answering
import EntityMapper.Proofs.Plan.Sorting
import EntityMapper.Proofs.Statement.Structure
import Mathlib.Data.List.TakeWhile

set_option autoImplicit false

/-! The order of a query with associations: what the caller asks for, then the keys of all levels,
so that rows of one root stand together unless the caller's order takes them apart. -/

namespace EntityMapper

open Entity

namespace EntityQuery

/-- The labels of a statement are not empty. -/
theorem label_ne_flatLabel {config : Config} {resolution : Resolution} {filter : Filter}
    {options : EntityOptions} {single : Bool} {statement : Statement}
    (written : (fragment config resolution filter options single).statement = .ok statement)
    (joined : resolution.plan.isJoined = true) {level : Level}
    (listed : level ∈ resolution.plan.levels) : level.label ≠ Row.flatLabel := by
  have items : selection resolution.plan =
      resolution.plan.levels.map fun level => .allOf level.label := if_pos joined
  have named : level.label ∈ (draft config resolution filter options single).names := by
    rw [draft, Draft.names, FindOptions.names, items]
    simp only [List.mem_append, List.mem_flatMap, List.mem_map]
    refine Or.inl (Or.inl (Or.inl (Or.inl (Or.inl ⟨_, ⟨level, listed, rfl⟩, ?_⟩))))
    exact List.mem_cons_self
  rw [← Draft.names_fragment] at named
  have sound := Fragment.fault?_of_mem_names (Fragment.statement_eq_ok written).1 named
  intro empty
  rw [empty] at sound
  cases sound

/-- What an order asks for before the key of the roots. -/
def leading (resolution : Resolution) (entries : List OrderBy) : List OrderBy :=
  (entries.map fun entry => { entry with column := resolution.mapColumn entry.column }).takeWhile
    fun entry => entry.column ≠ resolution.plan.root.keyColumn

theorem exists_takeWhile {column : ColumnRef} {entries : List OrderBy}
    (named : (entries.any fun entry => entry.column = column) = true) :
    ∃ direction rest, entries =
      (entries.takeWhile fun entry => entry.column ≠ column) ++ ⟨column, direction⟩ :: rest := by
  induction entries with
  | nil => cases named
  | cons entry others ih =>
      by_cases here : entry.column = column
      · subst here
        exact ⟨entry.direction, others, by simp⟩
      · rw [List.any_cons, decide_eq_false here, Bool.false_or] at named
        obtain ⟨direction, rest, same⟩ := ih named
        refine ⟨direction, rest, ?_⟩
        rw [List.takeWhile_cons_of_pos (by simpa using here), List.cons_append, ← same]

/-- Joined rows are ordered by the key of the roots, behind what is asked for before it. -/
theorem exists_order_leading {config : Config} {resolution : Resolution}
    (joined : resolution.plan.isJoined = true) (ordering : config.ordersPopulated = true)
    (entries : List OrderBy) :
    ∃ direction rest, order config resolution entries =
      leading resolution entries ++ ⟨resolution.plan.root.keyColumn, direction⟩ :: rest := by
  unfold order leading
  rw [joined, ordering]
  generalize (entries.map fun entry =>
    { entry with column := resolution.mapColumn entry.column }) = mapped
  change ∃ direction rest, orderByKeys resolution.plan.others
    (if mapped.any fun entry => entry.column = resolution.plan.root.keyColumn then mapped
      else mapped ++ [⟨resolution.plan.root.keyColumn, .ascending⟩]) = _
  by_cases named : (mapped.any fun entry =>
      entry.column = resolution.plan.root.keyColumn) = true
  · obtain ⟨direction, rest, same⟩ := exists_takeWhile named
    obtain ⟨more, added, -⟩ := exists_orderByKeys resolution.plan.others mapped
    refine ⟨direction, rest ++ more, ?_⟩
    rw [if_pos named, added]
    conv => lhs; rw [same]
    rw [List.append_assoc, List.cons_append]
  · obtain ⟨more, added, -⟩ := exists_orderByKeys resolution.plan.others
      (mapped ++ [⟨resolution.plan.root.keyColumn, .ascending⟩])
    refine ⟨.ascending, more, ?_⟩
    rw [if_neg named, added, List.append_assoc]
    congr 1
    symm
    rw [List.takeWhile_eq_self_iff]
    simpa using named

namespace Archive

private def identifier : Column :=
  ⟨"id", "id", .int, none, none, some (.fixed (.int 1)), false, true, false, false, []⟩

private def books : Association := ⟨"books", "Book", .hasMany "author"⟩

def descriptions : List EntityDescription :=
  [⟨"Author", "authors", [identifier, .plain "name" .varchar], [books]⟩,
    ⟨"Book", "books", [identifier, .plain "author" .int], []⟩]

def author : EntitySchema :=
  ⟨"Author", "authors", [identifier, .plain "name" .varchar], [books], identifier,
    List.mem_cons_self⟩

def book : EntitySchema :=
  ⟨"Book", "books", [identifier, .plain "author" .int], [], identifier, List.mem_cons_self⟩

/-- Authors and their books, with a default for their keys. -/
def registry : Registry := ⟨Keyed.ofList [("Author", author), ("Book", book)]⟩

def booksJoined : Resolution :=
  ⟨⟨.root author, [⟨"books", book, some ⟨0, books⟩⟩]⟩,
    [⟨.inner, .named "books", .qualified "authors" "id", .qualified "books" "author"⟩],
    ["authors", "books"]⟩

/-- Authors with their books, in an order. -/
def withBooks (entries : List OrderBy) : EntityOptions := ⟨[.mk "Book" []], entries, [], none⟩

/-- Integers stand behind everything else, in their own order. -/
def place : Value → Int
  | .int key => key.toInt
  | _ => Int64.minValue.toInt - 1

/-- No rows, and values that are compared by their places. -/
def ranked : Store where
  rows := fun _ => []
  equal := fun _ _ => false
  before := fun left right => decide (place left < place right)
  equal_int := fun equal => nomatch equal
  before_int := fun _ _ => decide_eq_decide.2 Int64.lt_iff_toInt_lt.symm

theorem sorts_ranked : ranked.Sorts where
  irreflexive := fun _ => decide_eq_false (Int.lt_irrefl _)
  cotransitive := by
    intro first second third leads
    simp only [ranked, decide_eq_true_eq] at leads ⊢
    omega

/-- A key that may be missing. -/
def keyValue : Option Int64 → Value
  | some key => .int key
  | none => .null

/-- The slice of an author, with a name. -/
def authorRow (key : Option Int64) : Record :=
  Keyed.ofList [("id", keyValue key), ("name", .text "Ada")]

/-- The slice of a book, with the key of its author. -/
def bookRow (entry : Option Int64 × Int64) : Record :=
  Keyed.ofList [("id", .int entry.2), ("author", keyValue entry.1)]

/-- Authors beside their books, by the keys of both. -/
def joinedRows (entries : List (Option Int64 × Int64)) : List Row :=
  entries.map fun entry => Keyed.ofList [("authors", authorRow entry.1), ("books", bookRow entry)]

theorem value_joinedRow (entry : Option Int64 × Int64) :
    let row : Row := Keyed.ofList [("authors", authorRow entry.1), ("books", bookRow entry)]
    booksJoined.plan.rootSlice? row = some (authorRow entry.1) ∧
      row.value (.qualified "authors" "id") = keyValue entry.1 ∧
      row.value (.qualified "books" "author") = keyValue entry.1 := by
  intro row
  have authors : row.get? "authors" = some (authorRow entry.1) :=
    Keyed.get?_ofList_of_mem (by simp) (by simp)
  have books : row.get? "books" = some (bookRow entry) :=
    Keyed.get?_ofList_of_mem (by simp) (by simp)
  have key : (authorRow entry.1).get? "id" = some (keyValue entry.1) :=
    Keyed.get?_ofList_of_mem (by simp) (by simp)
  have owner : (bookRow entry).get? "author" = some (keyValue entry.1) :=
    Keyed.get?_ofList_of_mem (by simp) (by simp)
  have name : (authorRow entry.1).get? "name" = some (.text "Ada") :=
    Keyed.get?_ofList_of_mem (by simp) (by simp)
  have filled : (authorRow entry.1).hasValue = true :=
    List.any_eq_true.2 ⟨_, Entries.mem_of_get? name, rfl⟩
  refine ⟨?_, ?_, ?_⟩
  · change (row.get? "authors").filter Record.hasValue = _
    rw [authors, Option.filter_some, if_pos filled]
  · rw [Row.value_qualified, authors, Option.map_some, Record.value, key]
    rfl
  · rw [Row.value_qualified, books, Option.map_some, Record.value, owner]
    rfl

theorem readKey_authorRow (key : Option Int64) : author.readKey (authorRow key) = keyValue key := by
  have held : (authorRow key).get? "id" = some (keyValue key) :=
    Keyed.get?_ofList_of_mem (by simp) (by simp)
  change (((authorRow key).get? "id").filter (fun value => !value.isNull) |>.map
    DataType.int.coerce).getD .null = _
  rw [held]
  cases key <;> rfl

theorem place_keyValue {left right : Option Int64}
    (same : place (keyValue left) = place (keyValue right)) : left = right := by
  cases left with
  | none =>
      cases right with
      | none => rfl
      | some key =>
          have least := key.minValue_le_toInt
          simp only [place, keyValue] at same
          omega
  | some key =>
      cases right with
      | none =>
          have least := key.minValue_le_toInt
          simp only [place, keyValue] at same
          omega
      | some other => rw [Int64.toInt_inj.1 same]

theorem hasNan_keyValue (key : Option Int64) : (keyValue key).hasNan = false := by
  cases key <;> rfl

/-- Rows are told apart by the keys of their authors. -/
theorem eq_of_tied {left right : Row} {first second : Option Int64} {column : ColumnRef}
    (held : left.value column = keyValue first) (heldOther : right.value column = keyValue second)
    (tied : ranked.Tied column left right) : first = second := by
  apply place_keyValue
  simp only [Store.Tied, ranked, held, heldOther, decide_eq_false_iff_not] at tied
  omega

theorem sortedRows_joinedRows {entries : List (Option Int64 × Int64)} {order : List OrderBy}
    (ordered : (joinedRows entries).Pairwise fun left right =>
      ranked.precedes order right left = false) :
    booksJoined.plan.SortedRows ranked order (joinedRows entries) := by
  refine ⟨ordered, ?_, ?_, ?_⟩
  · intro row member slice held field inside
    obtain ⟨entry, -, rfl⟩ := List.mem_map.1 member
    have free := hasNan_keyValue entry.1
    have listed := Keyed.mem_of_mem_ofList held
    simp only [List.mem_cons, List.not_mem_nil, or_false] at listed
    rcases listed with rfl | rfl
    · have listed := Keyed.mem_of_mem_ofList inside
      simp only [List.mem_cons, List.not_mem_nil, or_false] at listed
      rcases listed with rfl | rfl
      · exact free
      · rfl
    · have listed := Keyed.mem_of_mem_ofList inside
      simp only [List.mem_cons, List.not_mem_nil, or_false] at listed
      rcases listed with rfl | rfl
      · rfl
      · exact free
  · intro left inLeft right inRight first second held heldOther same
    obtain ⟨entry, -, rfl⟩ := List.mem_map.1 inLeft
    obtain ⟨other, -, rfl⟩ := List.mem_map.1 inRight
    cases (value_joinedRow entry).1.symm.trans held
    cases (value_joinedRow other).1.symm.trans heldOther
    change (author.readKey _).same (author.readKey _) = true at same
    rw [readKey_authorRow, readKey_authorRow] at same
    cases here : entry.1 <;> cases there : other.1 <;>
      simp [here, there, keyValue, Value.same] at same ⊢
    rw [same]
  · intro left inLeft right inRight first second held heldOther tied
    obtain ⟨entry, -, rfl⟩ := List.mem_map.1 inLeft
    obtain ⟨other, -, rfl⟩ := List.mem_map.1 inRight
    cases (value_joinedRow entry).1.symm.trans held
    cases (value_joinedRow other).1.symm.trans heldOther
    change (author.readKey _).same (author.readKey _) = true
    rw [eq_of_tied (value_joinedRow entry).2.1 (value_joinedRow other).2.1 tied,
      readKey_authorRow, Value.same_self, hasNan_keyValue]
    rfl

/-- Books name the keys of their authors. -/
theorem steady_owner (entries : List (Option Int64 × Int64)) :
    booksJoined.plan.Steady ranked (joinedRows entries) (.qualified "books" "author") := by
  refine Or.inr fun left inLeft right inRight same => sorts_ranked.tied_of_eq ?_
  obtain ⟨entry, -, rfl⟩ := List.mem_map.1 inLeft
  obtain ⟨other, -, rfl⟩ := List.mem_map.1 inRight
  have shown := congrArg (Option.filter Record.hasValue) same
  change booksJoined.plan.rootSlice? _ = booksJoined.plan.rootSlice? _ at shown
  rw [(value_joinedRow entry).1, (value_joinedRow other).1, Option.some_inj] at shown
  have keys := congrArg author.readKey shown
  rw [readKey_authorRow, readKey_authorRow] at keys
  rw [(value_joinedRow entry).2.2, (value_joinedRow other).2.2, keys]

end Archive

/-- Joined rows are sorted by the order that a query with associations compiles to. If the columns
that the caller asks for before the key of the roots are columns of the root, or such as the rows of
one root agree on, then no two roots are returned that were read with one key. A root has the key
that it was read with, if there was one. -/
theorem no_root_twice {descriptions : List EntityDescription} {registry : Registry}
    (built : Registry.ofDescriptions descriptions = .ok registry) {config : Config}
    (ordering : config.ordersPopulated = true) {entity : String} {filter : Filter}
    {options : EntityOptions} (populated : options.populate ≠ []) {query : EntityQuery}
    (planned : find registry config entity filter options = .ok query) {root : EntitySchema}
    (found : registry.find entity = .ok root) {resolution : Resolution}
    (resolved : Resolution.ofPopulates registry root options.populate = .ok resolution)
    {store : Store} (sorts : store.Sorts) {rows : List Row}
    (sorted : resolution.plan.SortedRows store (order config resolution options.orderBy) rows)
    (steady : ∀ entry ∈ leading resolution options.orderBy,
      resolution.plan.Steady store rows entry.column) (supply : Supply) :
    (Query.paged (.named root.table) (Filter.mapColumns resolution.mapColumn filter)
        (findOptions config resolution options)
        (EntityQuery.page config resolution.plan false options.page)).statement =
          .ok query.statement ∧
      let roots := ((query.plan.materialize
        (rows.map (Row.selected (selection query.plan)))).run supply).1
      (roots.Pairwise fun first second => first.storedKey.same second.storedKey = false) ∧
        ∀ root ∈ roots, root.storedKey.isNull = false →
          root.primaryKey? = some root.storedKey := by
  obtain ⟨other, another, foundAgain, resolvedAgain, written, same⟩ := build_eq_ok planned
  cases found.symm.trans foundAgain
  cases resolved.symm.trans resolvedAgain
  have rooted := Resolution.root_ofPopulates resolved
  have joined : resolution.plan.isJoined = true := by
    rw [Resolution.isJoined_ofPopulates resolved, Bool.not_eq_true', List.isEmpty_eq_false_iff]
    exact populated
  have distinct : resolution.plan.root.schema.DistinctFields := by
    rw [rooted]
    exact (Registry.regular_ofDescriptions built entity root (Registry.find_eq_ok found)).2
  obtain ⟨direction, rest, order⟩ := exists_order_leading joined ordering options.orderBy
  have covers : resolution.Covers store registry root := Resolution.covers_ofPopulates resolved
  have statement := written
  rw [fragment_eq, rooted] at statement
  refine ⟨statement, ?_⟩
  rw [same]
  have labelled : resolution.plan.Labelled :=
    ⟨joined, Resolution.ordered_ofPopulates resolved, covers.apart,
      fun level listed => label_ne_flatLabel written joined listed⟩
  exact sorted.distinct_roots distinct sorts order steady labelled supply

/-- Authors are asked for by what their books name as their keys, the greatest first. -/
theorem no_root_twice_archive :
    let options := Archive.withBooks [⟨.qualified "books" "author", .descending⟩]
    let rows := Archive.joinedRows [(some 2, 10), (some 1, 11), (some 1, 12)]
    ∃ query, find Archive.registry .standard "Author" [] options = .ok query ∧
      let roots := ((query.plan.materialize
        (rows.map (Row.selected (selection query.plan)))).run default).1
      (roots.Pairwise fun first second => first.storedKey.same second.storedKey = false) ∧
        roots.map (fun root => (root.many? "books").map List.length) = [some 1, some 2] := by
  intro options rows
  obtain ⟨query, planned, same⟩ : ∃ query,
      find Archive.registry .standard "Author" [] options = .ok query ∧
        query.plan = Archive.booksJoined.plan := ⟨_, rfl, rfl⟩
  have built : Registry.ofDescriptions Archive.descriptions = .ok Archive.registry := rfl
  have found : Archive.registry.find "Author" = .ok Archive.author := rfl
  have resolved : Resolution.ofPopulates Archive.registry Archive.author options.populate =
      .ok Archive.booksJoined := rfl
  have sorted : Archive.booksJoined.plan.SortedRows Archive.ranked
      (order .standard Archive.booksJoined options.orderBy) rows :=
    Archive.sortedRows_joinedRows (by decide +kernel)
  have asked : leading Archive.booksJoined options.orderBy =
      [⟨.qualified "books" "author", .descending⟩] := rfl
  obtain ⟨-, apart, -⟩ := no_root_twice built rfl (List.cons_ne_nil _ _) planned found resolved
    Archive.sorts_ranked sorted (by
      rw [asked]
      exact List.forall_mem_singleton.2 (Archive.steady_owner _)) default
  refine ⟨query, planned, apart, ?_⟩
  rw [same]
  decide +kernel

/-- Where the caller asks for books by their keys, an author comes once for each run of books of
their own. An author without a key gets a default for it, and so the key of another one. -/
theorem root_twice :
    Registry.ofDescriptions Archive.descriptions = .ok Archive.registry ∧ Archive.ranked.Sorts ∧
    (let options := Archive.withBooks [⟨.qualified "books" "id", .ascending⟩]
      let rows := Archive.joinedRows [(some 1, 10), (some 2, 11), (some 1, 12)]
      ∃ query, find Archive.registry .standard "Author" [] options = .ok query ∧
        Archive.booksJoined.plan.SortedRows Archive.ranked
          (order .standard Archive.booksJoined options.orderBy) rows ∧
        ¬ ((query.plan.materialize
            (rows.map (Row.selected (selection query.plan)))).run default).1.Pairwise
          fun first second => first.storedKey.same second.storedKey = false) ∧
    (let options := Archive.withBooks []
      let rows := Archive.joinedRows [(none, 10), (some 1, 11)]
      ∃ query, find Archive.registry .standard "Author" [] options = .ok query ∧
        Archive.booksJoined.plan.SortedRows Archive.ranked
          (order .standard Archive.booksJoined options.orderBy) rows ∧
        ¬ ((query.plan.materialize
            (rows.map (Row.selected (selection query.plan)))).run default).1.Pairwise
          fun first second => sameValue first.primaryKey? second.primaryKey? = false) := by
  refine ⟨rfl, Archive.sorts_ranked, ?_, ?_⟩
  · exact ⟨_, rfl, Archive.sortedRows_joinedRows (by decide +kernel), by decide +kernel⟩
  · exact ⟨_, rfl, Archive.sortedRows_joinedRows (by decide +kernel), by decide +kernel⟩

end EntityQuery

end EntityMapper
