import EntityMapper.Proofs.Plan.Answering

set_option autoImplicit false

/-! Entities from the answer to the query of a plan are populated with exactly what is linked to
them. -/

namespace EntityMapper

open Plan

/-- Slices of all choices of linked rows, those of one root together, give the populated roots. -/
theorem Plan.Exhausts.materialize {store : Store} {registry : Registry} {plan : Plan}
    {before : Record → Record → Prop} {choices : List (Nat → Record)} {branches : List Branch}
    (grounded : plan.Grounded store registry) (ordered : plan.Ordered)
    (bears : plan.BearsAll (plan.children 0) branches)
    (exhausts : plan.Exhausts store registry before choices)
    (transitive : ∀ {first second third : Record}, before first second → before second third →
      before first third)
    (irreflexive : ∀ record, ¬ before record record) {rows : List Row}
    (sliced : List.Forall₂ plan.Sliced choices rows) (supply : Supply) :
    ∃ records, store.PopulatedFrom registry plan.root.schema branches records
        ((plan.materialize rows).run supply).1 ∧ records.Pairwise before := by
  have drawn := shows_drawRows sliced supply
  have shown := drawn.imp fun _ _ => And.left
  have complete : ∀ slices ∈ ((drawRows plan rows).run supply).1, plan.Complete slices := by
    intro slices member
    obtain ⟨choice, there, shows, length⟩ := Pairing.exists_left drawn member
    exact complete_of_shows grounded (exhausts.fits choice there) shows length
  have all : ((drawRows plan rows).run supply).1.filter hasRoot =
      ((drawRows plan rows).run supply).1 :=
    List.filter_eq_self.2 fun slices member => (complete slices member).rooted
  obtain ⟨records, populated, listed, sorted⟩ := exhausts.populated grounded ordered bears
    transitive irreflexive shown complete
  have result : ((plan.materialize rows).run supply).1 =
      (pushAll plan ((drawRows plan rows).run supply).1 (.start plan)).result plan := by
    rw [Plan.materialize, StateT.run_bind, assemble_run, all]
    rfl
  rw [result]
  refine ⟨records, ⟨populated, listed, ?_⟩, sorted⟩
  refine sorted.imp ?_
  rintro record _ less rfl
  exact irreflexive record less

/-- Without associations each row gives one instance, in the order of the rows. -/
theorem exists_records_of_start {store : Store} {registry : Registry} {root : EntitySchema}
    {name : String} {config : Config} {page : Option Page}
    (grounded : (Resolution.start root).plan.Grounded store registry)
    (found : registry.get? name = some root) {rows : List Row}
    (answers : store.Answers (.named root.table)
      (EntityQuery.findOptions config (.start root) ⟨[], [], [], page⟩) rows) (supply : Supply) :
    ∃ records, store.PopulatedFrom registry root [] records
        (((Resolution.start root).plan.materialize rows).run supply).1 ∧
      rows = records.map Row.flat := by
  have covers : (Resolution.start root).Covers store registry root := Resolution.covers_start root
  have bears : (Resolution.start root).plan.BearsAll ((Resolution.start root).plan.children 0) [] :=
    rfl
  obtain ⟨listed, perm, rfl⟩ := exists_records_of_unjoined answers
  have nodup : listed.Nodup := by
    refine perm.nodup_iff.2 ((grounded.sound.unique name root found).imp ?_)
    rintro record _ apart rfl
    exact apart rfl
  obtain ⟨before, transitive, irreflexive, sorted⟩ := exists_before_of_nodup nodup
  obtain ⟨records, populated, sortedRecords⟩ :=
    (exhausts_flat perm sorted).materialize grounded covers.ordered bears (transitive _ _ _)
      irreflexive (sliced_flat grounded fun record => perm.mem_iff.1) supply
  -- Both lists hold the rows of the table, in the same strict order.
  have same : records = listed := by
    have antisymmetric : Std.Antisymm before :=
      ⟨fun left right less greater => absurd (transitive _ _ _ less greater) (irreflexive left)⟩
    have irreflexive : Std.Irrefl before := ⟨irreflexive⟩
    apply sortedRecords.eq_of_mem_iff sorted
    intro record
    rw [populated.mem_iff, perm.mem_iff]
    exact and_iff_left trivial
  exact ⟨records, populated, by rw [same]⟩

namespace EntityQuery

namespace Catalogue

private def identifier : Column :=
  ⟨"id", "id", .int, none, none, none, false, true, false, false, []⟩

private def books : Association := ⟨"books", "Book", .hasMany "author"⟩

def descriptions : List EntityDescription :=
  [⟨"Author", "authors", [identifier, .plain "name" .varchar], [books]⟩,
    ⟨"Book", "books", [identifier, .plain "author" .int], []⟩]

def author : EntitySchema :=
  ⟨"Author", "authors", [identifier, .plain "name" .varchar], [books], identifier,
    List.mem_cons_self⟩

def book : EntitySchema :=
  ⟨"Book", "books", [identifier, .plain "author" .int], [], identifier, List.mem_cons_self⟩

/-- Authors and their books. -/
def registry : Registry := ⟨Keyed.ofList [("Author", author), ("Book", book)]⟩

private def authorRow (entry : Int64 × Value) : Record :=
  Keyed.ofList [("id", .int entry.1), ("name", entry.2)]

private def bookRow (entry : Int64 × Int64) : Record :=
  Keyed.ofList [("id", .int entry.1), ("author", .int entry.2)]

/-- Keys and names of authors, and keys of books with those of their authors. Only integers are
compared. -/
def store (authors : List (Int64 × Value)) (titles : List (Int64 × Int64)) : Store where
  rows := fun table =>
    if table = "authors" then authors.map authorRow
    else if table = "books" then titles.map bookRow
    else []
  equal := fun left right =>
    match left, right with
    | .int first, .int second => first == second
    | _, _ => false
  before := fun left right =>
    match left, right with
    | .int first, .int second => decide (first < second)
    | _, _ => false
  equal_int := by
    intro value left right equalLeft equalRight
    cases value <;> simp_all
  before_int := fun _ _ => rfl

variable {authors : List (Int64 × Value)} {titles : List (Int64 × Int64)}

private theorem schema_of_get? {name : String} {schema : EntitySchema}
    (found : registry.get? name = some schema) : schema = author ∨ schema = book := by
  have member : (name, schema) ∈ [("Author", author), ("Book", book)] :=
    Entries.mem_of_get? found
  rcases List.mem_cons.1 member with equal | later
  · left
    exact congrArg Prod.snd equal
  · right
    exact congrArg Prod.snd (List.mem_singleton.1 later)

private theorem entries_authorRow (entry : Int64 × Value) :
    (authorRow entry).entries = [("id", .int entry.1), ("name", entry.2)] := by
  have notLess : ¬ "name" < "id" := by decide
  have different : "name" ≠ "id" := by decide
  change Entries.insert "name" entry.2 [("id", .int entry.1)] = _
  rw [Entries.insert_cons, if_neg notLess, if_neg different]
  rfl

private theorem entries_bookRow (entry : Int64 × Int64) :
    (bookRow entry).entries = [("author", .int entry.2), ("id", .int entry.1)] := by
  have less : "author" < "id" := by decide
  change Entries.insert "author" (Value.int entry.2) [("id", .int entry.1)] = _
  rw [Entries.insert_cons, if_pos less]

private theorem value_authorRow (entry : Int64 × Value) :
    (authorRow entry).value "id" = .int entry.1 := by
  simp [Record.value, Keyed.get?, entries_authorRow, Entries.get?_cons]

private theorem value_bookRow (entry : Int64 × Int64) :
    (bookRow entry).value "id" = .int entry.1 ∧ (bookRow entry).value "author" = .int entry.2 := by
  simp [Record.value, Keyed.get?, entries_bookRow, Entries.get?_cons]

theorem sound_store (apart : (authors.map Prod.fst).Nodup)
    (titlesApart : (titles.map Prod.fst).Nodup) : (store authors titles).Sound registry := by
  refine ⟨?_, ?_, ?_, ?_⟩
  · intro name schema found record member
    rcases schema_of_get? found with rfl | rfl
    · obtain ⟨entry, -, rfl⟩ := List.mem_map.1 member
      exact ⟨entry.1, value_authorRow entry⟩
    · obtain ⟨entry, -, rfl⟩ := List.mem_map.1 member
      exact ⟨entry.1, (value_bookRow entry).1⟩
  · intro name schema found
    rcases schema_of_get? found with rfl | rfl
    · refine List.pairwise_map.2 ((List.pairwise_map.1 apart).imp ?_)
      intro left right different same
      change (authorRow left).value "id" = (authorRow right).value "id" at same
      rw [value_authorRow, value_authorRow] at same
      exact different (Value.int.inj same)
    · refine List.pairwise_map.2 ((List.pairwise_map.1 titlesApart).imp ?_)
      intro left right different same
      change (bookRow left).value "id" = (bookRow right).value "id" at same
      rw [(value_bookRow left).1, (value_bookRow right).1] at same
      exact different (Value.int.inj same)
  · intro name schema found record member column listed
    rcases schema_of_get? found with rfl | rfl
    · obtain ⟨entry, -, rfl⟩ := List.mem_map.1 member
      rcases List.mem_cons.1 listed with rfl | later
      · change DataType.coerceInteger ((authorRow entry).value "id") = (authorRow entry).value "id"
        rw [value_authorRow]
        rfl
      · obtain rfl := List.mem_singleton.1 later
        rfl
    · obtain ⟨entry, -, rfl⟩ := List.mem_map.1 member
      rcases List.mem_cons.1 listed with rfl | later
      · change DataType.coerceInteger ((bookRow entry).value "id") = (bookRow entry).value "id"
        rw [(value_bookRow entry).1]
        rfl
      · obtain rfl := List.mem_singleton.1 later
        change DataType.coerceInteger ((bookRow entry).value "author") =
          (bookRow entry).value "author"
        rw [(value_bookRow entry).2]
        rfl
  · intro name owner found association listed key link
    rcases schema_of_get? found with rfl | rfl
    · obtain rfl := List.mem_singleton.1 listed
      cases link
    · exact absurd listed List.not_mem_nil

theorem nanFree_store (free : ∀ entry ∈ authors, entry.2.hasNan = false) :
    (store authors titles).NanFree registry := by
  intro name schema found record member
  rcases schema_of_get? found with rfl | rfl
  · obtain ⟨entry, there, rfl⟩ := List.mem_map.1 member
    intro field held
    rw [entries_authorRow] at held
    rcases List.mem_cons.1 held with rfl | later
    · rfl
    · obtain rfl := List.mem_singleton.1 later
      exact free entry there
  · obtain ⟨entry, there, rfl⟩ := List.mem_map.1 member
    intro field held
    rw [entries_bookRow] at held
    rcases List.mem_cons.1 held with rfl | later
    · rfl
    · obtain rfl := List.mem_singleton.1 later
      rfl

/-- Two authors with books and one without. -/
def shelf : Store :=
  store [(2, .text "Bea"), (1, .text "Ada"), (3, .null)] [(10, 2), (12, 1), (11, 1)]

/-- An author with two books, whose name is NaN. -/
def nameless : Store := store [(1, .float (Float.ofBits 0x7ff8000000000000))] [(11, 1), (10, 1)]

/-- Authors with their books. -/
def withBooks : EntityOptions := ⟨[.mk "Book" []], [], [], none⟩

def booksOf : List Branch := [.mk books book []]

def booksJoined : Resolution :=
  ⟨⟨.root author, [⟨"books", book, some ⟨0, books⟩⟩]⟩,
    [⟨.inner, .named "books", .qualified "authors" "id", .qualified "books" "author"⟩],
    ["authors", "books"]⟩

/-- All rows that are joined, the last one first. -/
def reversed (store : Store) (resolution : Resolution) (options : EntityOptions) : List Row :=
  ((store.joined (.named "authors") resolution.joins).reverse).map
    (Row.selected (findOptions .standard resolution options).select)

theorem answers_reversed (store : Store) (resolution : Resolution) (options : EntityOptions)
    (sorted : (store.joined (.named "authors") resolution.joins).reverse.Pairwise fun left right =>
      store.precedes (findOptions .standard resolution options).orderBy right left = false) :
    store.Answers (.named "authors") (findOptions .standard resolution options)
      (reversed store resolution options) :=
  ⟨_, List.reverse_perm _, sorted, rfl⟩

/-- The key that an entity was read with. -/
def key? (entity : Entity) : Option Int64 :=
  match entity.stored.bind (Keyed.get? "id") with
  | some (.int key) => some key
  | _ => none

theorem value_of_key? {entity : Entity} {record : Record} {key : Int64}
    (isOf : entity.IsOf author record) (read : key? entity = some key) :
    record.value "id" = .int key := by
  obtain ⟨stored, kept, holds⟩ := isOf.stored
  have held : stored.get? "id" = some (record.value "id") := holds identifier List.mem_cons_self
  rw [key?, kept, Option.bind_some, held] at read
  split at read
  · rename_i value given
    rw [Option.some.inj given, Option.some.inj read]
  · cases read

end Catalogue

/-- The rows that the statement of a query asks for, where tables hold no NaN, give exactly the
complete rows of the table, each once and with exactly what is linked to it. They come in the order
of their keys if some association is followed, else in the order of the rows. -/
theorem materialize_populated {descriptions : List EntityDescription} {registry : Registry}
    (built : Registry.ofDescriptions descriptions = .ok registry) {config : Config}
    (ordering : config.ordersPopulated = true) {entity : String} {populates : List Populate}
    {page : Option Page} {query : EntityQuery}
    (planned : find registry config entity [] ⟨populates, [], [], page⟩ = .ok query)
    {root : EntitySchema} (found : registry.find entity = .ok root) {resolution : Resolution}
    (resolved : Resolution.ofPopulates registry root populates = .ok resolution)
    {branches : List Branch}
    (followed : Branch.ofPopulates registry root populates = .ok branches)
    (once : Branch.AllOnce branches) {store : Store} (sound : store.Sound registry)
    (free : store.NanFree registry) {rows : List Row}
    (answers : store.Answers (.named root.table)
      (findOptions config resolution ⟨populates, [], [], page⟩) rows) (supply : Supply) :
    (Query.paged (.named root.table) []
        (findOptions config resolution ⟨populates, [], [], page⟩)
        (EntityQuery.page config resolution.plan false page)).statement = .ok query.statement ∧
      ∃ records, store.PopulatedFrom registry root branches records
          ((query.plan.materialize rows).run supply).1 ∧
        (populates ≠ [] → records.Pairwise root.KeyLess) ∧
        (populates = [] → rows = records.map Row.flat) := by
  obtain ⟨other, another, foundAgain, resolvedAgain, written, same⟩ := build_eq_ok planned
  cases found.symm.trans foundAgain
  cases resolved.symm.trans resolvedAgain
  have rooted := Resolution.root_ofPopulates resolved
  have joined := Resolution.isJoined_ofPopulates resolved
  rw [fragment_eq, rooted] at written
  refine ⟨written, ?_⟩
  rw [same]
  obtain ⟨_, followedAgain, bears⟩ := Resolution.bears_ofPopulates resolved
  cases followed.symm.trans followedAgain
  have ordered := Resolution.ordered_ofPopulates resolved
  have grounded : resolution.plan.Grounded store registry :=
    { sound := sound
      free := free
      regular := Registry.regular_ofDescriptions built
      declared := Resolution.declared_ofPopulates (Registry.find_eq_ok found) resolved
      names := distinctNames_of_once ordered bears once }
  cases populates with
  | nil =>
      obtain rfl := Resolution.followAll_nil resolved
      obtain rfl := Except.ok.inj followed
      obtain ⟨records, populated, rfl⟩ :=
        exists_records_of_start grounded (Registry.find_eq_ok found) answers supply
      exact ⟨records, populated, fun some => absurd rfl some, fun _ => rfl⟩
  | cons populate rest =>
      obtain ⟨choices, sliced, exhausts⟩ := exists_choices_of_joined
        (Resolution.covers_ofPopulates resolved) grounded joined ordering answers
      obtain ⟨records, populated, sorted⟩ := exhausts.materialize grounded ordered bears
        EntitySchema.KeyLess.trans (EntitySchema.KeyLess.irrefl _) sliced supply
      rw [rooted] at populated sorted
      exact ⟨records, populated, fun _ => sorted, fun none => nomatch none⟩

/-- Two of three authors have books: the first one two of them, the second one one. -/
theorem materialize_populated_shelf :
    ∃ query, find Catalogue.registry .standard "Author" [] Catalogue.withBooks = .ok query ∧
      (∃ records, Catalogue.shelf.PopulatedFrom Catalogue.registry Catalogue.author
          Catalogue.booksOf records
          ((query.plan.materialize (Catalogue.reversed Catalogue.shelf Catalogue.booksJoined
            Catalogue.withBooks)).run default).1 ∧
        records.Pairwise Catalogue.author.KeyLess) ∧
      ((query.plan.materialize (Catalogue.reversed Catalogue.shelf Catalogue.booksJoined
          Catalogue.withBooks)).run default).1.map
        (fun root => (root.many? "books").map List.length) = [some 2, some 1] := by
  obtain ⟨query, planned, same⟩ : ∃ query,
      find Catalogue.registry .standard "Author" [] Catalogue.withBooks = .ok query ∧
        query.plan = Catalogue.booksJoined.plan := ⟨_, rfl, rfl⟩
  have built : Registry.ofDescriptions Catalogue.descriptions = .ok Catalogue.registry := rfl
  have found : Catalogue.registry.find "Author" = .ok Catalogue.author := rfl
  have resolved : Resolution.ofPopulates Catalogue.registry Catalogue.author [.mk "Book" []] =
      .ok Catalogue.booksJoined := rfl
  have followed : Branch.ofPopulates Catalogue.registry Catalogue.author [.mk "Book" []] =
      .ok Catalogue.booksOf := rfl
  have once : Branch.AllOnce Catalogue.booksOf :=
    ⟨trivial, fun _ none => absurd none List.not_mem_nil, trivial⟩
  have sound : Catalogue.shelf.Sound Catalogue.registry :=
    Catalogue.sound_store (by decide) (by decide)
  have free : Catalogue.shelf.NanFree Catalogue.registry := by
    apply Catalogue.nanFree_store
    decide
  have answers := Catalogue.answers_reversed Catalogue.shelf Catalogue.booksJoined
    Catalogue.withBooks (by decide +kernel)
  obtain ⟨-, records, populated, sorted, -⟩ := materialize_populated built rfl planned found
    resolved followed once sound free answers default
  refine ⟨query, planned, ⟨records, populated, sorted (List.cons_ne_nil _ _)⟩, ?_⟩
  rw [same]
  decide +kernel

/-- Where no association is followed, authors come in the order of the rows, whatever their keys.
Where a column holds NaN, an author comes once for each book. -/
theorem disordered_and_doubled_roots :
    (∃ query, find Catalogue.registry .standard "Author" [] default = .ok query ∧
      Catalogue.shelf.Sound Catalogue.registry ∧ Catalogue.shelf.NanFree Catalogue.registry ∧
      Catalogue.shelf.Answers (.named "authors")
        (findOptions .standard (.start Catalogue.author) default)
        (Catalogue.reversed Catalogue.shelf (.start Catalogue.author) default) ∧
      ¬ ∃ records, Catalogue.shelf.PopulatedFrom Catalogue.registry Catalogue.author [] records
          ((query.plan.materialize (Catalogue.reversed Catalogue.shelf (.start Catalogue.author)
            default)).run default).1 ∧
        records.Pairwise Catalogue.author.KeyLess) ∧
    ∃ query, find Catalogue.registry .standard "Author" [] Catalogue.withBooks = .ok query ∧
      Catalogue.nameless.Sound Catalogue.registry ∧
      Catalogue.nameless.Answers (.named "authors")
        (findOptions .standard Catalogue.booksJoined Catalogue.withBooks)
        (Catalogue.reversed Catalogue.nameless Catalogue.booksJoined Catalogue.withBooks) ∧
      ¬ ∃ records, Catalogue.nameless.PopulatedFrom Catalogue.registry Catalogue.author
          Catalogue.booksOf records
          ((query.plan.materialize (Catalogue.reversed Catalogue.nameless Catalogue.booksJoined
            Catalogue.withBooks)).run default).1 := by
  constructor
  · obtain ⟨query, planned, same⟩ : ∃ query,
        find Catalogue.registry .standard "Author" [] default = .ok query ∧
          query.plan = (Resolution.start Catalogue.author).plan := ⟨_, rfl, rfl⟩
    refine ⟨query, planned, Catalogue.sound_store (by decide) (by decide),
      Catalogue.nanFree_store (by decide), Catalogue.answers_reversed _ _ _ (by decide +kernel), ?_⟩
    rintro ⟨records, populated, sorted⟩
    have keys : ((query.plan.materialize (Catalogue.reversed Catalogue.shelf
        (.start Catalogue.author) default)).run default).1.map Catalogue.key? =
          [some 3, some 1, some 2] := by
      rw [same]
      decide +kernel
    obtain ⟨first, rest, listed, firstKey, restKeys⟩ := List.map_eq_cons_iff.1 keys
    obtain ⟨second, others, rfl, secondKey, -⟩ := List.map_eq_cons_iff.1 restKeys
    have instances := populated.populated
    rw [listed] at instances
    rcases instances with _ | ⟨madeFirst, _ | ⟨madeSecond, -⟩⟩
    -- The keys of the first two records are those that their instances were read with.
    obtain ⟨low, high, lowHeld, highHeld, less⟩ :=
      (List.pairwise_cons.1 sorted).1 _ List.mem_cons_self
    cases lowHeld.symm.trans (Catalogue.value_of_key? madeFirst.1 firstKey)
    cases highHeld.symm.trans (Catalogue.value_of_key? madeSecond.1 secondKey)
    exact absurd less (by decide)
  · obtain ⟨query, planned, same⟩ : ∃ query,
        find Catalogue.registry .standard "Author" [] Catalogue.withBooks = .ok query ∧
          query.plan = Catalogue.booksJoined.plan := ⟨_, rfl, rfl⟩
    refine ⟨query, planned, Catalogue.sound_store (by decide) (by decide),
      Catalogue.answers_reversed _ _ _ (by decide +kernel), ?_⟩
    rintro ⟨records, populated⟩
    have two : ((query.plan.materialize (Catalogue.reversed Catalogue.nameless
        Catalogue.booksJoined Catalogue.withBooks)).run default).1.length = 2 := by
      rw [same]
      decide +kernel
    rw [← populated.populated.length_eq] at two
    obtain ⟨first, second, rfl⟩ := List.length_eq_two.1 two
    have equal : first = second := by
      have here := ((populated.mem_iff first).1 List.mem_cons_self).1
      have there := ((populated.mem_iff second).1 (List.mem_cons_of_mem _ List.mem_cons_self)).1
      rw [List.mem_singleton.1 here, List.mem_singleton.1 there]
    subst equal
    exact (List.nodup_cons.1 populated.nodup).1 List.mem_cons_self

end EntityQuery

end EntityMapper
