import EntityMapper.Proofs.Entity.Descent
import EntityMapper.Proofs.Plan.Heads

set_option autoImplicit false

/-! Every way down from a root that is built stands in one of the rows, and nothing is doubled on
it, however the rows are ordered. While rows are taken in, what is held matches the last row taken,
so that nothing is attached below an instance of another row. -/

namespace EntityMapper

open Entity Slices

/-- A row has an instance at a level that matches the one given, which was read. -/
def Slices.Offers (row : Slices) (index : Nat) (entity : Entity) : Prop :=
  entity.Read ∧ row.has index entity = true

namespace Plan

/-- Each step of a way goes from a level to one below it, by the association between them, to an
instance that is shown there. -/
inductive Follows (plan : Plan) (shown : Nat → Entity → Prop) : Nat → Way → Prop where
  | here (index : Nat) : Follows plan shown index []
  | through {index child : Nat} {association : Association} {next : Entity} {way : Way}
      (member : (child, association) ∈ plan.children index) (there : shown child next)
      (further : Follows plan shown child way) :
      Follows plan shown index ((association.name, next) :: way)

/-- An instance is of the type of a level, and what it has stored is what the slice of the row
holds for the level. -/
def Stores (plan : Plan) (row : Row) (index : Nat) (entity : Entity) : Prop :=
  ∃ level record stored, plan.levels[index]? = some level ∧ slice? level row = some record ∧
    entity.typeName = level.schema.name ∧ entity.stored = some stored ∧
    stored.same (storedFields .storage record level.schema.columns) = true

/-- A way from a level on stands in a row that is alike to the last one up to this level. -/
def Traced (plan : Plan) (taken : List Slices) (last : Slices) (index : Nat) (way : Way) : Prop :=
  ∃ row ∈ taken, (∀ level, level ≤ index → Alike level last row) ∧
    plan.Follows row.Offers index way

/-- What may be held at a level: an instance of the last row, whose ways stand in the rows. -/
structure Accords (plan : Plan) (taken : List Slices) (last : Slices) (index : Nat)
    (slot : Option Entity) : Prop where
  absent : slot = none → last.at? index = none
  present : ∀ entity, slot = some entity →
    last.has index entity = true ∧ entity.Tidy (plan.Traced taken last index)

/-- What is held before a depth fits. -/
structure Retains (plan : Plan) (taken : List Slices) (last : Slices) (depth : Nat)
    (held : Slices) : Prop where
  length : held.length = plan.levels.length
  fits : ∀ index slot, index < depth → held[index]? = some slot →
    plan.Accords taken last index slot

/-- A root all of whose ways stand in rows that have the root. -/
def Grown (plan : Plan) (taken : List Slices) (root : Entity) : Prop :=
  root.Tidy fun way => ∃ row ∈ taken, row.Offers 0 root ∧ plan.Follows row.Offers 0 way

variable {plan : Plan} {taken : List Slices} {last row held : Slices} {index depth : Nat}

theorem Follows.imp {shown other : Nat → Entity → Prop} {way : Way}
    (shows : ∀ index entity, shown index entity → other index entity)
    (follows : plan.Follows shown index way) : plan.Follows other index way := by
  induction follows with
  | here index => exact .here index
  | through member there further ih => exact .through member (shows _ _ there) ih

theorem congruent_follows (shown : Nat → Entity → Prop)
    (matching : ∀ index left right, left.Read → right.Read → left.isSame right = true →
      shown index left → shown index right) (index : Nat) :
    Congruent (plan.Follows shown index) := by
  intro before
  induction before generalizing index with
  | nil =>
      intro name left right after readLeft readRight same follows
      cases follows with
      | through member there further =>
          exact .through member (matching _ _ _ readLeft readRight same there) further
  | cons step rest ih =>
      intro name left right after readLeft readRight same follows
      cases follows with
      | through member there further =>
          exact .through member there (ih _ name left right after readLeft readRight same further)

theorem offers_of_isSame {left right : Entity} (clean : row.Clean) (readLeft : left.Read)
    (readRight : right.Read) (same : left.isSame right = true) (offers : row.Offers index left) :
    row.Offers index right :=
  ⟨readRight, has_of_isSame clean readRight readLeft
    ((readRight.isSame_comm readLeft).trans same) offers.2⟩

theorem congruent_traced (clean : ∀ row ∈ taken, row.Clean) (last : Slices) (index : Nat) :
    Congruent (plan.Traced taken last index) := by
  rintro before name left right after readLeft readRight same ⟨row, member, alike, follows⟩
  refine ⟨row, member, alike, ?_⟩
  exact congruent_follows row.Offers (fun _ _ _ readLeft readRight =>
    offers_of_isSame (clean row member) readLeft readRight) index before name left right after
    readLeft readRight same follows

theorem alike_self (clean : row.Clean) (index : Nat) : Alike index row row := by
  cases found : row.at? index with
  | none => exact Or.inl ⟨found, found⟩
  | some entity =>
      exact Or.inr (agree_iff.2 ⟨entity, entity, found, found,
        (clean.read index entity found).isSame_self⟩)

/-- Rows that are alike at a level have the same instances there. -/
theorem has_of_alike {entity : Entity} {other : Slices} (cleanRow : row.Clean)
    (cleanOther : other.Clean) (read : entity.Read) (alike : Alike index row other)
    (has : row.has index entity = true) : other.has index entity = true := by
  obtain ⟨found, here, same⟩ := has_iff.1 has
  obtain ⟨_, another, equal, there, matching⟩ := agree_iff.1 (alike.agree here)
  cases here.symm.trans equal
  exact has_iff.2 ⟨another, there, read.isSame_trans (cleanRow.read index found here)
    (cleanOther.read index another there) same matching⟩

section Fold

variable (clean : ∀ row ∈ taken, row.Clean) (there : last ∈ taken)

include clean there

/-- What fits at a level may be attached to what fits at the level of its owner. -/
theorem Accords.attach {level : Level} {origin : Origin} {child : Entity} {slot : Option Entity}
    (member : (depth, origin.association) ∈ plan.children origin.parent)
    (below : plan.Accords taken last depth (some child))
    (above : plan.Accords taken last origin.parent slot) :
    plan.Accords taken last origin.parent (slot.map (Assembly.attachAt level origin child)) := by
  obtain ⟨has, tidyChild⟩ := below.present child rfl
  refine ⟨fun nothing => above.absent (Option.map_eq_none_iff.1 nothing), ?_⟩
  intro entity attached
  obtain ⟨owner, rfl, rfl⟩ := Option.map_eq_some_iff.1 attached
  obtain ⟨hasOwner, tidy⟩ := above.present owner rfl
  have bounds := child_bounds member
  have congruent : Congruent (plan.Traced taken last origin.parent) :=
    congruent_traced clean last origin.parent
  have further : child.Tidy fun way =>
      plan.Traced taken last origin.parent ((origin.association.name, child) :: way) := by
    refine tidyChild.imp ?_
    rintro way ⟨row, inside, alike, follows⟩
    have offers : row.Offers depth child := ⟨tidyChild.read, has_of_alike (clean last there)
      (clean row inside) tidyChild.read (alike depth (Nat.le_refl _)) has⟩
    exact ⟨row, inside, fun level least => alike level (by omega),
      .through member offers follows⟩
  constructor
  · obtain ⟨other, found, same⟩ := has_iff.1 hasOwner
    refine has_iff.2 ⟨other, found, ?_⟩
    rw [isSame_congr (sameBut_attachAt level origin child owner).bare rfl]
    exact same
  · rw [Assembly.attachAt]
    split
    · exact tidy_attachOne congruent tidy _ child further
    · exact tidy_attachMany congruent tidy _ child further

theorem retains_foldLevel (ordered : plan.Ordered) (positive : 0 < depth)
    (inside : depth < plan.levels.length) (retains : plan.Retains taken last (depth + 1) held) :
    plan.Retains taken last depth (Assembly.foldLevel plan.levels held depth) := by
  obtain ⟨level, origin, placed, attachedBy, before⟩ := ordered.origin positive inside
  have member : (depth, origin.association) ∈ plan.children origin.parent :=
    mem_children.2 ⟨level, origin, placed, attachedBy, rfl, before, rfl⟩
  have kept : plan.Retains taken last depth held :=
    ⟨retains.length, fun index slot less => retains.fits index slot (by omega)⟩
  unfold Assembly.foldLevel
  split
  · rename_i child found heldHere placedHere
    obtain rfl := Option.some.inj (placed.symm.trans placedHere)
    have below := retains.fits depth _ (Nat.lt_succ_self _) heldHere
    simp only [attachedBy]
    refine ⟨by rw [List.length_modify, List.length_set, retains.length], ?_⟩
    intro index slot less shown
    by_cases parent : origin.parent = index
    · subst parent
      rw [List.getElem?_modify_eq, List.getElem?_set_ne (by omega)] at shown
      obtain ⟨old, heldThere, rfl⟩ := Option.map_eq_some_iff.1 shown
      exact below.attach clean there member (kept.fits _ old less heldThere)
    · rw [List.getElem?_modify_ne _ _ parent, List.getElem?_set_ne (by omega)] at shown
      exact kept.fits index slot less shown
  · exact kept

/-- Folding leaves the levels above as they fit, and it finishes nothing but a grown root. -/
theorem Retains.flush (ordered : plan.Ordered)
    (retains : plan.Retains taken last plan.levels.length held) {first : Nat}
    (inside : first ≤ plan.levels.length) (finished : List Entity) :
    ∃ next done, Assembly.flush plan first ⟨held, finished⟩ = ⟨next, finished ++ done⟩ ∧
      plan.Retains taken last first next ∧ ∀ root ∈ done, plan.Grown taken root := by
  have least : max first 1 ≤ plan.levels.length := by
    rw [length_levels] at inside ⊢
    omega
  have folded := foldLevels_induction retains
    (fun depth _ above less => retains_foldLevel clean there ordered (by omega) less) least
  rw [Assembly.flush]
  by_cases all : first = 0
  · subst all
    rw [if_pos rfl]
    dsimp only
    split
    · rename_i root rest shown
      rw [shown] at folded
      obtain ⟨has, tidy⟩ := (folded.fits 0 (some root) Nat.one_pos rfl).present root rfl
      refine ⟨_, [root], rfl, ⟨folded.length, fun index slot less => absurd less
        (Nat.not_lt_zero _)⟩, List.forall_mem_singleton.2 ?_⟩
      refine tidy.imp ?_
      rintro way ⟨row, member, alike, follows⟩
      exact ⟨row, member, ⟨tidy.read, has_of_alike (clean last there) (clean row member) tidy.read
        (alike 0 (Nat.le_refl _)) has⟩, follows⟩
    · exact ⟨_, [], by rw [List.append_nil], ⟨folded.length, fun index slot less => absurd less
        (Nat.not_lt_zero _)⟩, fun root member => absurd member List.not_mem_nil⟩
  · rw [if_neg all]
    have same : max first 1 = first := by omega
    rw [same] at folded
    exact ⟨_, [], by rw [same, List.append_nil], folded,
      fun root member => absurd member List.not_mem_nil⟩

/-- What is held matches the last row, so that a row matches it iff it is alike to the last one. -/
theorem Retains.alike (retains : plan.Retains taken last plan.levels.length held)
    (complete : plan.Complete row) (less : index < Assembly.matchingLevels held row) :
    Alike index last row := by
  have bound := matchingLevels_le held row
  have within : index < plan.levels.length := complete.length ▸ Nat.lt_of_lt_of_le less bound
  rcases same_of_lt_matchingLevels less with
    ⟨absent, missing⟩ | ⟨found, current, present, given, same⟩
  · exact Or.inl ⟨(retains.fits index none within absent).absent rfl, by rw [at?, missing]; rfl⟩
  · obtain ⟨has, tidy⟩ := (retains.fits index _ within present).present found rfl
    obtain ⟨other, here, matching⟩ := has_iff.1 has
    have current : row.at? index = some current := by rw [at?, given]; rfl
    have readOther := (clean last there).read index other here
    have back := (readOther.isSame_comm tidy.read).trans matching
    exact Or.inr (agree_iff.2 ⟨other, _, here, current, readOther.isSame_trans tidy.read
      (complete.clean.read index _ current) back same⟩)

/-- What fits a row fits the next one if they are alike so far. -/
theorem Accords.next {slot : Option Entity} (fits : plan.Accords taken last index slot)
    (cleanRow : row.Clean) (alike : ∀ level, level ≤ index → Alike level last row) :
    plan.Accords (taken ++ [row]) row index slot := by
  refine ⟨fun nothing => at?_eq_none_of_alike (alike index (Nat.le_refl _)) (fits.absent nothing),
    ?_⟩
  intro entity held
  obtain ⟨has, tidy⟩ := fits.present entity held
  refine ⟨has_of_alike (clean last there) cleanRow tidy.read (alike index (Nat.le_refl _)) has,
    tidy.imp ?_⟩
  rintro way ⟨other, member, before, follows⟩
  refine ⟨other, List.mem_append_left _ member, fun level least => ?_, follows⟩
  exact ((alike level least).symm (clean last there) cleanRow).trans cleanRow (clean last there)
    (clean other member) (before level least)

end Fold

theorem tidy_withCollections {along : Way → Prop} {entity : Entity} (tidy : entity.Tidy along)
    (plan : Plan) (index : Nat) : (Assembly.withCollections plan index entity).Tidy along := by
  have steps : ∀ levels : List Level, (levels.foldl (withCollection index) entity).Tidy along := by
    intro levels
    induction levels generalizing entity with
    | nil => exact tidy
    | cons level rest ih =>
        apply ih
        unfold withCollection
        split
        · split
          · exact tidy.initMany _
          · exact tidy
        · exact tidy
  exact steps plan.levels

/-- What a row holds fits it. -/
theorem fits_withCollections (clean : row.Clean) (taken : List Slices) (index : Nat) :
    plan.Accords (taken ++ [row]) row index
      ((row.at? index).map (Assembly.withCollections plan index)) := by
  refine ⟨Option.map_eq_none_iff.1, ?_⟩
  intro entity held
  obtain ⟨drawn, found, rfl⟩ := Option.map_eq_some_iff.1 held
  have read := clean.read index drawn found
  constructor
  · refine has_iff.2 ⟨drawn, found, ?_⟩
    rw [withCollections_eq, isSame_congr (bare_foldl_withCollection _ _ _) rfl]
    exact read.isSame_self
  · refine tidy_withCollections (tidy_of_bare ?_ read (clean.bare index drawn found)) plan index
    exact ⟨row, List.mem_append_right _ (List.mem_singleton_self _),
      fun level _ => alike_self clean level, .here index⟩

/-- A row is held from the first level on at which it differs from the row before it. -/
theorem retains_hold (complete : plan.Complete row) {first : Nat}
    (inside : first ≤ plan.levels.length) (length : held.length = plan.levels.length)
    (kept : ∀ index slot, index < first → held[index]? = some slot →
      plan.Accords (taken ++ [row]) row index slot) :
    plan.Retains (taken ++ [row]) row plan.levels.length
      (held.take first ++ (Assembly.prepared plan row).drop first) := by
  have before : (held.take first).length = first := by
    rw [List.length_take, length]
    omega
  refine ⟨?_, ?_⟩
  · rw [List.length_append, before, List.length_drop, Assembly.prepared, List.length_mapIdx,
      complete.length]
    omega
  · intro index slot less shown
    by_cases above : index < first
    · rw [List.getElem?_append_left (by omega), List.getElem?_take_of_lt above] at shown
      exact kept index slot above shown
    · have given : row[index]? = some (row.at? index) := by
        rw [at?, List.getElem?_eq_getElem (by rw [complete.length]; exact less)]
        rfl
      rw [List.getElem?_append_right (by omega), before, List.getElem?_drop, Assembly.prepared,
        List.getElem?_mapIdx, Nat.add_sub_cancel' (by omega), given] at shown
      obtain rfl := Option.some.inj shown
      exact fits_withCollections complete.clean taken index

theorem Retains.push (ordered : plan.Ordered) (clean : ∀ row ∈ taken, row.Clean)
    (there : last ∈ taken) (retains : plan.Retains taken last plan.levels.length held)
    (complete : plan.Complete row) (finished : List Entity) :
    ∃ next done, Assembly.push plan row ⟨held, finished⟩ = ⟨next, finished ++ done⟩ ∧
      plan.Retains (taken ++ [row]) row plan.levels.length next ∧
        ∀ root ∈ done, plan.Grown taken root := by
  have bound := matchingLevels_le held row
  rw [complete.length] at bound
  have alike : ∀ index, index < Assembly.matchingLevels held row → Alike index last row :=
    fun index less => retains.alike clean there complete less
  have next : ∀ index slot, index < Assembly.matchingLevels held row →
      plan.Accords taken last index slot → plan.Accords (taken ++ [row]) row index slot :=
    fun index slot less fits => fits.next clean there complete.clean
      fun level least => alike level (Nat.lt_of_le_of_lt least less)
  rw [Assembly.push]
  split
  · obtain ⟨folded, done, flushed, kept, grown⟩ := retains.flush clean there ordered bound finished
    refine ⟨_, done, by rw [flushed, Assembly.hold], ?_, grown⟩
    exact retains_hold complete bound kept.length
      fun index slot less shown => next index slot less (kept.fits index slot less shown)
  · rename_i same
    rw [complete.length] at same
    change ¬ Assembly.matchingLevels held row < plan.levels.length at same
    refine ⟨held, [], by rw [List.append_nil], ⟨retains.length, fun index slot less shown => ?_⟩,
      fun root member => absurd member List.not_mem_nil⟩
    exact next index slot (by omega) (retains.fits index slot less shown)

theorem Grown.mono {root : Entity} {others : List Slices} (subset : ∀ row ∈ taken, row ∈ others)
    (grown : plan.Grown taken root) : plan.Grown others root := by
  refine grown.imp ?_
  rintro way ⟨row, member, shown⟩
  exact ⟨row, subset row member, shown⟩

/-- Taking in further rows: all roots that are finished have grown from the rows. -/
theorem grown_foldl_push (ordered : plan.Ordered) {rows : List Slices} {finished : List Entity}
    (complete : ∀ row ∈ taken, plan.Complete row) (completeRows : ∀ row ∈ rows, plan.Complete row)
    (there : last ∈ taken) (retains : plan.Retains taken last plan.levels.length held)
    (before : ∀ root ∈ finished, plan.Grown taken root) :
    ∀ root ∈ (pushAll plan rows ⟨held, finished⟩).result plan,
      plan.Grown (taken ++ rows) root := by
  have clean : ∀ row ∈ taken, row.Clean := fun row member => (complete row member).clean
  induction rows generalizing taken last held finished with
  | nil =>
      obtain ⟨next, done, flushed, -, grown⟩ :=
        retains.flush clean there ordered (Nat.zero_le _) finished
      rw [pushAll, List.foldl_nil, Assembly.result, flushed, List.append_nil]
      exact List.forall_mem_append.2 ⟨before, grown⟩
  | cons row rest ih =>
      obtain ⟨completeRow, completeRest⟩ := List.forall_mem_cons.1 completeRows
      obtain ⟨next, done, pushed, further, grown⟩ :=
        retains.push ordered clean there completeRow finished
      have completeNext : ∀ other ∈ taken ++ [row], plan.Complete other :=
        List.forall_mem_append.2 ⟨complete, List.forall_mem_singleton.2 completeRow⟩
      have both : ∀ root ∈ finished ++ done, plan.Grown (taken ++ [row]) root := by
        intro root member
        refine Grown.mono (fun other => List.mem_append_left _) ?_
        exact (List.mem_append.1 member).elim (before root) (grown root)
      rw [pushAll, List.foldl_cons, pushed, ← List.singleton_append, ← List.append_assoc]
      exact ih completeNext completeRest (List.mem_append_right _ (List.mem_singleton_self _))
        further both fun other member => (completeNext other member).clean

theorem grown_pushAll (ordered : plan.Ordered) {rows : List Slices}
    (complete : ∀ row ∈ rows, plan.Complete row) :
    ∀ root ∈ (pushAll plan rows (.start plan)).result plan, plan.Grown rows root := by
  cases rows with
  | nil =>
      rw [pushAll, List.foldl_nil, Assembly.result, flush_start]
      exact fun root member => absurd member List.not_mem_nil
  | cons row rest =>
      obtain ⟨completeRow, completeRest⟩ := List.forall_mem_cons.1 complete
      have occupied : 0 < row.length := by
        rw [completeRow.length]
        exact Nat.succ_pos _
      have pushed : Assembly.push plan row (.start plan) =
          ⟨(Assembly.start plan).held.take 0 ++ (Assembly.prepared plan row).drop 0, []⟩ := by
        rw [Assembly.push, matchingLevels_start completeRow, if_pos occupied, flush_start]
        rfl
      have retains : plan.Retains ([] ++ [row]) row plan.levels.length
          ((Assembly.start plan).held.take 0 ++ (Assembly.prepared plan row).drop 0) :=
        retains_hold completeRow (Nat.zero_le _) (List.length_map _)
          fun index slot less => absurd less (Nat.not_lt_zero _)
      rw [pushAll, List.foldl_cons, pushed]
      exact grown_foldl_push ordered (List.forall_mem_singleton.2 completeRow) completeRest
        (List.mem_singleton_self _) retains fun root member => absurd member List.not_mem_nil

/-- What is drawn from a row at a level is stored in the row. -/
theorem stores_of_offers {row : Row} {supply : Supply} {entity : Entity}
    (offers : Slices.Offers ((drawSlices row plan.levels).run supply).1 index entity) :
    plan.Stores row index entity := by
  obtain ⟨⟨stored, known, -⟩, has⟩ := offers
  obtain ⟨other, found, same⟩ := has_iff.1 has
  obtain ⟨level, placed, made⟩ := Pairing.exists_getElem?_left
    (drawSlices_run row plan.levels supply) (Option.join_eq_some_iff.1 found)
  unfold DrawnFrom at made
  split at made
  · rename_i record given
    obtain ⟨supply, equal⟩ := made
    obtain rfl := Option.some.inj equal
    rw [isSame_of_stored known rfl, Bool.and_eq_true, decide_eq_true_eq] at same
    exact ⟨level, record, stored, placed, given, same.1, known, same.2⟩
  · cases made

/-- Whatever the order of the rows and whatever they hold at any level: each way down from a root
that is built for a query stands in a single row, at each level by the stored values, and no
collection on the way holds two instances that match each other. -/
theorem materialize_follows_rows {registry : Registry} {config : Config} {entity : String}
    {filter : Filter} {options : EntityOptions} {query : EntityQuery}
    (planned : EntityQuery.find registry config entity filter options = .ok query)
    {rows : List Row} (free : ∀ row ∈ rows, row.NanFree) (supply : Supply) :
    ∀ root ∈ ((query.plan.materialize rows).run supply).1, ∀ way last, root.Reaches way last →
      (∃ row ∈ rows, query.plan.Stores row 0 root ∧
        query.plan.Follows (query.plan.Stores row) 0 way) ∧
      ∀ name items, (name, Related.many items) ∈ last.relations →
        items.Pairwise fun left right => left.isSame right = false ∧ right.isSame left = false := by
  obtain ⟨schema, resolution, -, resolved, -, same⟩ := EntityQuery.build_eq_ok planned
  have ordered : query.plan.Ordered := same ▸ Resolution.ordered_ofPopulates resolved
  intro root built way last reached
  rw [materialize, StateT.run_bind, assemble_run] at built
  have grown := grown_pushAll ordered (fun slices member => complete_of_mem_drawRows free member)
    root built
  obtain ⟨⟨slices, member, offers, follows⟩, -, apart⟩ := grown way last reached
  obtain ⟨row, there, drawnWith, rfl⟩ := mem_drawRows (List.mem_filter.1 member).1
  exact ⟨⟨row, there, stores_of_offers offers, follows.imp fun _ _ => stores_of_offers⟩,
    fun name items attached => apart name (.many items) attached⟩

/-- Authors in no order, with a book in several rows: two books are found for the author between two
entities of the other one, and each way to them stands in a row. -/
theorem materialize_follows_rows_library :
    ∃ query roots, EntityQuery.find Library.registry .standard "Author" [] Library.options =
        .ok query ∧
      ((query.plan.materialize (Library.rows.reverse ++ Library.rows)).run default).1 = roots ∧
      roots.map (fun root => (root.many? "books").map List.length) = [some 0, some 2, some 0] ∧
      ∀ root ∈ roots, ∀ way last, root.Reaches way last →
        (∃ row ∈ Library.rows.reverse ++ Library.rows, query.plan.Stores row 0 root ∧
          query.plan.Follows (query.plan.Stores row) 0 way) ∧
        ∀ name items, (name, Related.many items) ∈ last.relations →
          items.Pairwise fun left right =>
            left.isSame right = false ∧ right.isSame left = false := by
  obtain ⟨query, planned, books⟩ : ∃ query,
      EntityQuery.find Library.registry .standard "Author" [] Library.options = .ok query ∧
      ((query.plan.materialize (Library.rows.reverse ++ Library.rows)).run default).1.map
        (fun root => (root.many? "books").map List.length) = [some 0, some 2, some 0] :=
    ⟨_, rfl, rfl⟩
  have free : ∀ row ∈ Library.rows.reverse ++ Library.rows, row.NanFree := by
    have all : ((Library.rows.reverse ++ Library.rows).all fun row => row.entries.all fun entry =>
        entry.2.entries.all fun each => !each.2.hasNan) = true := rfl
    simp only [List.all_eq_true, Bool.not_eq_true'] at all
    exact all
  exact ⟨query, _, planned, rfl, books, materialize_follows_rows planned free default⟩

end Plan

end EntityMapper
