import EntityMapper.Proofs.Plan.Drawing
import EntityMapper.Proofs.Plan.EntityQuery
import EntityMapper.Proofs.Plan.Taking
import Mathlib.Data.List.SplitBy

set_option autoImplicit false

/-! Joined rows stand for one root for each run of rows that agree on it. -/

namespace EntityMapper.Plan

open Entity Slices

variable {plan : Plan}

/-- Rows in runs of one root. -/
def runs (rows : List Slices) : List (List Slices) := rows.splitBy sameRoot

theorem mem_loop_of_mem {run : List Slices} (rows : List Slices) (last : Slices)
    (current : List Slices) {finished : List (List Slices)} (member : run ∈ finished) :
    run ∈ List.splitBy.loop sameRoot rows last current finished := by
  induction rows generalizing last current finished with
  | nil => exact List.mem_reverse.2 (List.mem_cons_of_mem _ member)
  | cons row rest ih =>
      rw [List.splitBy.loop]
      split
      · exact ih row (last :: current) member
      · exact ih row [] (List.mem_cons_of_mem _ member)

/-- The rows read so far stay in one run. -/
theorem exists_run (rows : List Slices) (last : Slices) (current : List Slices)
    (finished : List (List Slices)) :
    ∃ run ∈ List.splitBy.loop sameRoot rows last current finished,
      ∀ row ∈ (last :: current).reverse, row ∈ run := by
  induction rows generalizing last current finished with
  | nil =>
      exact ⟨(last :: current).reverse, List.mem_reverse.2 List.mem_cons_self, fun row => id⟩
  | cons row rest ih =>
      rw [List.splitBy.loop]
      split
      · obtain ⟨run, member, inside⟩ := ih row (last :: current) finished
        refine ⟨run, member, ?_⟩
        intro other there
        apply inside
        rw [List.reverse_cons]
        exact List.mem_append_left _ there
      · exact ⟨_, mem_loop_of_mem rest row [] List.mem_cons_self, fun row => id⟩

/-- A row has something in common with what is held iff it is of the root that is held. -/
theorem matchingLevels_pos_iff {held row : Slices} {found current : Entity}
    (holds : held[0]? = some (some found)) (given : row.at? 0 = some current) :
    0 < Assembly.matchingLevels held row ↔ found.isSame current = true := by
  cases held with
  | nil => cases holds
  | cons first rest =>
      obtain rfl : first = some found := Option.some.inj holds
      cases row with
      | nil => cases given
      | cons slot others =>
          obtain rfl : slot = some current := given
          rw [Assembly.matchingLevels]
          split
          · rename_i equal
            exact ⟨fun _ => equal, fun _ => Nat.succ_pos _⟩
          · rename_i different
            exact ⟨fun less => absurd less (Nat.lt_irrefl _), fun equal => absurd equal different⟩

/-- A row is of the root that is held if it is of the root of any row before it. -/
theorem Holding.sameRoot_iff {rows : List Slices} {held row last : Slices} {start : Nat → Nat}
    (holding : plan.Holding rows held start) (complete : plan.Complete row)
    (there : last ∈ rows) :
    sameRoot last row = true ↔ 0 < Assembly.matchingLevels held row := by
  obtain ⟨top, here, topIn⟩ := holding.spans.exists_row 0
  obtain ⟨entity, stored⟩ := exists_root (holding.spans.rooted top topIn)
  obtain ⟨current, given⟩ := exists_root complete.rooted
  obtain ⟨slot, shown, holdsHere⟩ :=
    holding.holds.slots 0 top (Nat.succ_pos _) (Nat.succ_pos _) here
  obtain ⟨found, rfl, bare, -⟩ := holdsHere.present entity stored
  -- The root of the row is compared with the one that is held, or with that of a row before it.
  obtain ⟨position, placed⟩ := List.getElem?_of_mem there
  have alike := holding.spans.alike 0 position top last
    (by rw [holding.spans.root]; exact Nat.zero_le _) here placed
  obtain ⟨_, root, equal, rootLast, same⟩ := agree_iff.1 (alike.agree stored)
  cases stored.symm.trans equal
  have readEntity := (holding.spans.clean top topIn).read 0 entity stored
  have readRoot := (holding.spans.clean last there).read 0 root rootLast
  have readCurrent := complete.clean.read 0 current given
  have compared : sameRoot last row = root.isSame current := by
    simp only [sameRoot, has, rootLast, given]
  rw [matchingLevels_pos_iff shown given, compared, isSame_congr bare rfl,
    isSame_congr_left readEntity readRoot readCurrent same]

/-- Takes in rows that have a root. -/
def pushAll (plan : Plan) (rows : List Slices) (assembly : Assembly) : Assembly :=
  rows.foldl (fun before row => before.push plan row) assembly

/-- Taking in further rows: each run gives one root. -/
theorem result_foldl_push (ordered : plan.Ordered) (distinct : plan.DistinctNames)
    {rows : List Slices} {last : Slices} {current : List Slices} {held : Slices}
    {start : Nat → Nat} {runsBefore : List (List Slices)} {finished : List Entity}
    (holding : plan.Holding (last :: current).reverse held start)
    (complete : ∀ row ∈ rows, plan.Complete row)
    (single : ∀ run ∈ List.splitBy.loop sameRoot rows last current runsBefore,
      plan.OnePerPath run)
    (before : finished.map some = runsBefore.reverse.map (plan.instance? 0)) :
    ((pushAll plan rows ⟨held, finished⟩).result plan).map some =
      (List.splitBy.loop sameRoot rows last current runsBefore).map (plan.instance? 0) := by
  induction rows generalizing last current held start runsBefore finished with
  | nil =>
      have singleCurrent : plan.OnePerPath (last :: current).reverse :=
        single _ (List.mem_reverse.2 List.mem_cons_self)
      obtain ⟨root, others, stands, flushed, -⟩ :=
        holding.flush_root ordered distinct singleCurrent finished
      rw [pushAll, List.foldl_nil, Assembly.result, flushed, List.splitBy.loop, List.reverse_cons,
        List.map_append, List.map_append, before, List.map_singleton, List.map_singleton, stands]
  | cons row rest ih =>
      have completeRow := complete row List.mem_cons_self
      have completeRest : ∀ other ∈ rest, plan.Complete other := fun other member =>
        complete other (List.mem_cons_of_mem _ member)
      obtain ⟨run, inRuns, inside⟩ := exists_run (row :: rest) last current runsBefore
      have singleCurrent : plan.OnePerPath (last :: current).reverse :=
        (single run inRuns).of_subset inside
      have lastIn : last ∈ (last :: current).reverse := List.mem_reverse.2 List.mem_cons_self
      have same := holding.sameRoot_iff completeRow lastIn
      rw [pushAll, List.foldl_cons]
      by_cases agrees : sameRoot last row = true
      · obtain ⟨next, others, pushed, further⟩ := holding.push_same ordered distinct singleCurrent
          completeRow finished (same.1 agrees)
        rw [← List.reverse_cons] at further
        rw [List.splitBy.loop, agrees] at single ⊢
        rw [pushed]
        exact ih further completeRest single before
      · have differs : Assembly.matchingLevels held row = 0 :=
          Nat.eq_zero_of_not_pos fun positive => agrees (same.2 positive)
        obtain ⟨root, next, stands, pushed, further⟩ := holding.push_next ordered distinct
          singleCurrent completeRow finished differs
        rw [Bool.not_eq_true] at agrees
        rw [List.splitBy.loop, agrees] at single ⊢
        rw [pushed]
        refine ih further completeRest single ?_
        rw [List.map_append, List.reverse_cons, List.map_append, before, List.map_singleton,
          List.map_singleton, stands]

theorem assemble_cons_run (plan : Plan) (row : Row) (rest : List Row) (assembly : Assembly)
    (supply : Supply) :
    (plan.assemble (row :: rest) assembly).run supply =
      (plan.assemble rest
        (if hasRoot ((drawSlices row plan.levels).run supply).1 then
          assembly.push plan ((drawSlices row plan.levels).run supply).1
        else assembly)).run ((drawSlices row plan.levels).run supply).2 := rfl

/-- Rows are drawn first and taken in then. -/
theorem assemble_run (plan : Plan) (rows : List Row) (assembly : Assembly) (supply : Supply) :
    (plan.assemble rows assembly).run supply =
      (pushAll plan (((drawRows plan rows).run supply).1.filter hasRoot) assembly,
        ((drawRows plan rows).run supply).2) := by
  induction rows generalizing assembly supply with
  | nil => rfl
  | cons row rest ih =>
      rw [assemble_cons_run, ih, drawRows_cons_run]
      by_cases rooted : hasRoot ((drawSlices row plan.levels).run supply).1 = true
      · rw [if_pos rooted, List.filter_cons_of_pos rooted]
        rfl
      · rw [if_neg rooted, List.filter_cons_of_neg rooted]

theorem complete_of_mem_drawRows {rows : List Row} (free : ∀ row ∈ rows, row.NanFree)
    {supply : Supply} {slices : Slices}
    (member : slices ∈ ((drawRows plan rows).run supply).1.filter hasRoot) :
    plan.Complete slices := by
  obtain ⟨listed, rooted⟩ := List.mem_filter.1 member
  obtain ⟨row, there, supply, rfl⟩ := mem_drawRows listed
  have length := (drawSlices_run row plan.levels supply).length_eq
  exact ⟨clean_drawSlices (free row there) plan.levels supply, rooted, length.symm⟩

/-- Rows that are taken in stand for one root for each run. -/
theorem result_pushAll (ordered : plan.Ordered) (distinct : plan.DistinctNames)
    {rows : List Slices} (complete : ∀ row ∈ rows, plan.Complete row)
    (single : ∀ run ∈ runs rows, plan.OnePerPath run) :
    ((pushAll plan rows (.start plan)).result plan).map some =
      (runs rows).map (plan.instance? 0) := by
  cases rows with
  | nil =>
      rw [pushAll, List.foldl_nil, Assembly.result, flush_start]
      rfl
  | cons row rest =>
      have completeRest : ∀ other ∈ rest, plan.Complete other := fun other member =>
        complete other (List.mem_cons_of_mem _ member)
      obtain ⟨next, pushed, holding⟩ :=
        push_start ordered distinct (complete row List.mem_cons_self)
      change _ = (List.splitBy.loop sameRoot rest row [] []).map (plan.instance? 0)
      rw [pushAll, List.foldl_cons, pushed]
      exact result_foldl_push ordered distinct holding completeRest single rfl

/-- The rows of a plan for a query, without NaN, are cut into runs of one root. Each run gives one
root, with the distinct instances of its rows at every level below, each in its place. -/
theorem materialize_eq_runs {registry : Registry} {config : Config} {entity : String}
    {filter : Filter} {options : EntityOptions} {query : EntityQuery}
    (planned : EntityQuery.find registry config entity filter options = .ok query)
    (distinct : query.plan.DistinctNames) {rows : List Row} (free : ∀ row ∈ rows, row.NanFree)
    (supply : Supply)
    (single : ∀ run ∈ runs (((drawRows query.plan rows).run supply).1.filter hasRoot),
      query.plan.OnePerPath run) :
    ∃ roots, (query.plan.materialize rows).run supply =
        (roots, ((drawRows query.plan rows).run supply).2) ∧
      roots.map some =
        (runs (((drawRows query.plan rows).run supply).1.filter hasRoot)).map
          (query.plan.instance? 0) := by
  obtain ⟨root, resolution, -, resolved, -, same⟩ := EntityQuery.build_eq_ok planned
  have ordered : query.plan.Ordered := same ▸ Resolution.ordered_ofPopulates resolved
  refine ⟨_, ?_, result_pushAll ordered distinct
    (fun slices member => complete_of_mem_drawRows free member) single⟩
  rw [materialize, StateT.run_bind, assemble_run]
  rfl

namespace Library

private def identifier : Column :=
  ⟨"id", "id", .int, none, none, none, false, true, false, false, []⟩

private def country : EntitySchema :=
  ⟨"Country", "countries", [identifier], [], identifier, List.mem_cons_self⟩

private def book : EntitySchema :=
  ⟨"Book", "books", [identifier, .plain "author" .int], [], identifier, List.mem_cons_self⟩

private def author : EntitySchema :=
  ⟨"Author", "authors", [identifier, .plain "country" .int],
    [⟨"books", "Book", .hasMany "author"⟩, ⟨"home", "Country", .belongsTo "country"⟩], identifier,
    List.mem_cons_self⟩

/-- Authors, their books, and the countries where they live. -/
def registry : Registry :=
  ⟨Keyed.ofList [("Author", author), ("Book", book), ("Country", country)]⟩

def options : EntityOptions := ⟨[.mk "Book" [], .mk "Country" []], [], [], none⟩

private def row (author book country : Int64) : Row :=
  Keyed.ofList [("authors", Keyed.ofList [("id", .int author), ("country", .int country)]),
    ("books", Keyed.ofList [("id", .int book), ("author", .int author)]),
    ("countries", Keyed.ofList [("id", .int country)])]

/-- Two books of one author, one of them in two rows, and an author without any. -/
def rows : List Row :=
  [row 1 10 7, row 1 11 7, row 1 10 7, Keyed.ofList [("authors", Keyed.ofList [("id", .int 2)])]]

end Library

/-- The first author has two books and a country, the other one has neither. -/
theorem materialize_eq_runs_library :
    ∃ query roots, EntityQuery.find Library.registry .standard "Author" [] Library.options =
        .ok query ∧
      (query.plan.materialize Library.rows).run default =
        (roots, ((drawRows query.plan Library.rows).run default).2) ∧
      roots.map some =
        (runs (((drawRows query.plan Library.rows).run default).1.filter hasRoot)).map
          (query.plan.instance? 0) ∧
      roots.map (fun root => (root.many? "books").map List.length) = [some 2, some 0] ∧
      roots.map (fun root => (root.one? "home").isSome) = [true, false] := by
  obtain ⟨query, planned, first, others, alike, books, homes⟩ : ∃ query,
      EntityQuery.find Library.registry .standard "Author" [] Library.options = .ok query ∧
      query.plan.children 0 =
        [(1, ⟨"books", "Book", .hasMany "author"⟩),
          (2, ⟨"home", "Country", .belongsTo "country"⟩)] ∧
      (∀ index, query.plan.children (index + 1) = []) ∧
      ((runs (((drawRows query.plan Library.rows).run default).1.filter hasRoot)).all fun run =>
        run.all fun left => run.all fun right =>
          (left.at? 2).all fun first => (right.at? 2).all fun second =>
            first.isSame second) = true ∧
      ((query.plan.materialize Library.rows).run default).1.map
        (fun root => (root.many? "books").map List.length) = [some 2, some 0] ∧
      ((query.plan.materialize Library.rows).run default).1.map
        (fun root => (root.one? "home").isSome) = [true, false] :=
    ⟨_, rfl, rfl, fun _ => rfl, rfl, rfl, rfl⟩
  have distinct : query.plan.DistinctNames := by
    intro index
    cases index with
    | zero =>
        rw [first]
        decide
    | succ index =>
        rw [others]
        exact List.Pairwise.nil
  have free : ∀ row ∈ Library.rows, row.NanFree := by
    have all : (Library.rows.all fun row => row.entries.all fun entry =>
        entry.2.entries.all fun each => !each.2.hasNan) = true := rfl
    simp only [List.all_eq_true, Bool.not_eq_true'] at all
    exact all
  have single : ∀ run ∈ runs (((drawRows query.plan Library.rows).run default).1.filter hasRoot),
      query.plan.OnePerPath run := by
    simp only [List.all_eq_true] at alike
    intro run member index child association below one left inLeft right inRight _ entity other
      foundLeft foundRight
    have same := alike run member left inLeft right inRight
    cases index with
    | succ index =>
        rw [others] at below
        cases below
    | zero =>
        rw [first] at below
        rcases List.mem_cons.1 below with equal | later
        · cases equal
          cases one
        · cases List.mem_singleton.1 later
          rw [foundLeft, foundRight] at same
          exact same
  obtain ⟨roots, ran, stands⟩ := materialize_eq_runs planned distinct free default single
  rw [ran] at books homes
  exact ⟨query, roots, planned, ran, stands, books, homes⟩

end EntityMapper.Plan
