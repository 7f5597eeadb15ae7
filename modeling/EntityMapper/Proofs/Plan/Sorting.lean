import EntityMapper.Proofs.Blocks
import EntityMapper.Proofs.Plan.Showing
import EntityMapper.Proofs.Plan.Heads
import EntityMapper.Proofs.Store.Sorting

set_option autoImplicit false

/-! Joined rows in an order that names the key of the roots: the rows of one root stand together in
it, and no root is returned twice, unless a column before the key tells rows of one root apart. -/

namespace EntityMapper

open Entity Slices Store

/-- The key that an instance of a record is read with, null where there is none. -/
def EntitySchema.readKey (schema : EntitySchema) (record : Record) : Value :=
  (input? schema.primaryKey .storage record).getD .null

namespace Entity

/-- The key that an instance was read with, whatever default has been made up for it. -/
def storedKey (entity : Entity) : Value :=
  (entity.stored.bind (Keyed.get? entity.schema.primaryKey.field)).getD .null

namespace MadeOf

variable {entity : Entity} {schema : EntitySchema} {record : Record}

theorem storedKey_eq (made : entity.MadeOf schema record) (distinct : schema.DistinctFields) :
    entity.storedKey = schema.readKey record := by
  rw [storedKey, made.stored, made.schema_eq, Option.bind_some,
    get?_storedFields distinct schema.primaryKey_mem]
  rfl

/-- A key that is read is the key of the instance. -/
theorem primaryKey?_eq (made : entity.MadeOf schema record) (distinct : schema.DistinctFields)
    (present : (schema.readKey record).isNull = false) :
    entity.primaryKey? = some (schema.readKey record) := by
  cases given : input? schema.primaryKey .storage record with
  | none =>
      rw [EntitySchema.readKey, given] at present
      cases present
  | some key =>
      have read : schema.readKey record = key := by rw [EntitySchema.readKey, given]; rfl
      obtain ⟨supply, fields⟩ := made.fields
      rw [read] at present ⊢
      rw [primaryKey?, made.schema_eq, Entity.get?, fields,
        get?_drawFields distinct schema.primaryKey_mem given]
      simp [present]

end MadeOf

end Entity

namespace Plan

variable {store : Store} {plan : Plan} {entries : List OrderBy} {rows : List Row}

/-- The slice of the root in a joined row, if some column of it holds a value. -/
def rootSlice? (plan : Plan) (row : Row) : Option Record :=
  (row.get? plan.root.label).filter Record.hasValue

/-- Joined rows without NaN in an order. Those with one key of the root have one slice of the root,
and those that the order does not tell apart by the key have one key. -/
structure SortedRows (store : Store) (plan : Plan) (entries : List OrderBy) (rows : List Row) :
    Prop where
  ordered : rows.Pairwise fun left right => store.precedes entries right left = false
  free : ∀ row ∈ rows, row.NanFree
  same : ∀ left ∈ rows, ∀ right ∈ rows, ∀ first second, plan.rootSlice? left = some first →
    plan.rootSlice? right = some second →
      (plan.root.schema.readKey first).same (plan.root.schema.readKey second) = true →
        first = second
  told : ∀ left ∈ rows, ∀ right ∈ rows, ∀ first second, plan.rootSlice? left = some first →
    plan.rootSlice? right = some second → store.Tied plan.root.keyColumn left right →
      (plan.root.schema.readKey first).same (plan.root.schema.readKey second) = true

/-- A column does not tell rows of one root apart: it is a column of the root, or they hold the same
in it. -/
def Steady (store : Store) (plan : Plan) (rows : List Row) (column : ColumnRef) : Prop :=
  column.table = some plan.root.label ∨ ∀ left ∈ rows, ∀ right ∈ rows,
    left.get? plan.root.label = right.get? plan.root.label → store.Tied column left right

theorem Steady.tied {column : ColumnRef} (steady : plan.Steady store rows column)
    (sorts : store.Sorts) {left right : Row} (inLeft : left ∈ rows) (inRight : right ∈ rows)
    (same : left.get? plan.root.label = right.get? plan.root.label) :
    store.Tied column left right := by
  rcases steady with own | tied
  · apply sorts.tied_of_eq
    rw [Row.value, Row.value, own, Option.getD_some, same]
  · exact tied left inLeft right inRight same

/-- Where the columns before the key of the root do not tell rows of one root apart, the rows of one
root stand together. -/
theorem SortedRows.together (sorted : plan.SortedRows store entries rows) (sorts : store.Sorts)
    {leading rest : List OrderBy} {direction : Direction}
    (order : entries = leading ++ ⟨plan.root.keyColumn, direction⟩ :: rest)
    (steady : ∀ entry ∈ leading, plan.Steady store rows entry.column) {left middle right : Row}
    (listed : [left, middle, right].Sublist rows) {first second : Record}
    (shown : plan.rootSlice? left = some first) (between : plan.rootSlice? middle = some second)
    (again : plan.rootSlice? right = some first) : second = first := by
  have ordered := sorted.ordered.sublist listed
  simp only [List.pairwise_cons, List.mem_cons, List.not_mem_nil, or_false, forall_eq_or_imp,
    forall_eq] at ordered
  obtain ⟨⟨leads, -⟩, follows, -⟩ := ordered
  have inLeft : left ∈ rows := listed.mem (by simp)
  have inMiddle : middle ∈ rows := listed.mem (by simp)
  have inRight : right ∈ rows := listed.mem (by simp)
  have same : left.get? plan.root.label = right.get? plan.root.label := by
    rw [(Option.filter_eq_some_iff.1 shown).1, (Option.filter_eq_some_iff.1 again).1]
  have key : plan.Steady store rows plan.root.keyColumn := Or.inl rfl
  rw [order] at leads follows
  have tied : store.Tied plan.root.keyColumn left middle :=
    sorts.tied_of_sorted ⟨plan.root.keyColumn, direction⟩ leads follows
      (fun entry member => (steady entry member).tied sorts inLeft inRight same)
      (key.tied sorts inLeft inRight same)
  exact (sorted.same left inLeft middle inMiddle first second shown between
    (sorted.told left inLeft middle inMiddle first second shown between tied)).symm

/-- Joined rows hold a slice for each level, under labels that are not empty. -/
structure Labelled (plan : Plan) : Prop where
  joined : plan.isJoined = true
  ordered : plan.Ordered
  apart : plan.levels.Pairwise fun left right => left.label ≠ right.label
  named : ∀ level ∈ plan.levels, level.label ≠ Row.flatLabel

/-- What is handed over of a joined row. -/
def handed (plan : Plan) (row : Row) : Row := Row.selected (EntityQuery.selection plan) row

/-- What is drawn from joined rows, as far as they have a root. -/
def drawnRoots (plan : Plan) (rows : List Row) (supply : Supply) : List Slices :=
  ((drawRows plan (rows.map plan.handed)).run supply).1.filter hasRoot

/-- The root in the slices of a row is made of the slice of the root in a joined row. -/
def Draws (plan : Plan) (row : Row) (slices : Slices) : Prop :=
  ∃ record entity, plan.rootSlice? row = some record ∧ slices.at? 0 = some entity ∧
    entity.MadeOf plan.root.schema record

/-- What the root in the slices of a row was read with. -/
def storedRoot (slices : Slices) : Option Record := (slices.at? 0).bind Entity.stored

theorem storedRoot_eq {slices : Slices} {entity : Entity} {schema : EntitySchema} {record : Record}
    (found : slices.at? 0 = some entity) (made : entity.MadeOf schema record) :
    storedRoot slices = some (storedFields .storage record schema.columns) := by
  rw [storedRoot, found, Option.bind_some, made.stored]

section Labelled

variable (labelled : plan.Labelled)

include labelled

/-- The slice of the root is handed over, and nothing else stands in for it. -/
theorem Labelled.slice?_handed (row : Row) :
    slice? plan.root (plan.handed row) = plan.rootSlice? row := by
  have flat : (plan.handed row).flat? = none :=
    get?_selected_of_absent labelled.joined fun level listed same =>
      absurd same (labelled.named level listed)
  have same : (plan.handed row).get? plan.root.label = row.get? plan.root.label := by
    cases held : row.get? plan.root.label with
    | some record => exact get?_selected labelled.apart labelled.joined List.mem_cons_self held
    | none => exact get?_selected_of_absent labelled.joined fun level _ same => same ▸ held
  apply Option.ext
  intro record
  rw [slice?_eq_some_iff, rootSlice?, Option.filter_eq_some_iff, flat, same]
  simp only [reduceCtorEq, and_false, or_false]

theorem Labelled.draws {row : Row} {slices : Slices}
    (drawn : List.Forall₂ (DrawnFrom (plan.handed row)) plan.levels slices)
    (rooted : hasRoot slices = true) : plan.Draws row slices := by
  obtain ⟨entity, found⟩ := exists_root rooted
  obtain ⟨level, placed, made⟩ :=
    Pairing.exists_getElem?_left drawn (Option.join_eq_some_iff.1 found)
  obtain rfl : plan.root = level := Option.some.inj placed
  unfold DrawnFrom at made
  rw [labelled.slice?_handed] at made
  cases held : plan.rootSlice? row with
  | none =>
      rw [held] at made
      cases made
  | some record =>
      rw [held] at made
      obtain ⟨supply, same⟩ := made
      obtain rfl := Option.some.inj same
      exact ⟨record, _, held, found, supply, rfl⟩

/-- Rows that have a root draw it from its slice. -/
theorem Labelled.exists_draws (rows : List Row) (supply : Supply) :
    ∃ kept, kept.Sublist rows ∧ List.Forall₂ plan.Draws kept (drawnRoots plan rows supply) := by
  have drawn := drawn_drawRows plan (rows.map plan.handed) supply
  rw [List.forall₂_map_left_iff] at drawn
  obtain ⟨kept, listed, related⟩ := Pairing.exists_sublist drawn List.filter_sublist
  refine ⟨kept, listed, ?_⟩
  have rooted := (List.forall₂_and_left (p := fun slices => hasRoot slices = true) _ _).2
    ⟨fun slices member => (List.mem_filter.1 member).2, related.flip⟩
  refine (rooted.imp ?_).flip
  rintro slices row ⟨rooted, drawn⟩
  exact labelled.draws drawn rooted

end Labelled

/-- The root of a run is made of the slice of the root in a row of the run. -/
theorem Heads.exists_made {kept : List Row} {drawn : List Slices}
    (draws : List.Forall₂ plan.Draws kept drawn) {run : List Slices} (member : run ∈ runs drawn)
    {root : Entity} (heads : Heads run root) :
    ∃ slices ∈ run, ∃ row ∈ kept, ∃ record, plan.rootSlice? row = some record ∧
      storedRoot slices = some (storedFields .storage record plan.root.schema.columns) ∧
      root.MadeOf plan.root.schema record := by
  obtain ⟨slices, inside, entity, found, bare⟩ := heads
  obtain ⟨row, there, record, other, held, foundOther, made⟩ :=
    Pairing.exists_left draws (Blocks.mem_of_mem_block member inside)
  cases found.symm.trans foundOther
  refine ⟨slices, inside, row, there, record, held, storedRoot_eq found made, ?_⟩
  obtain ⟨supply, same⟩ := made
  exact ⟨supply, bare.trans same⟩

section Roots

variable (sorted : plan.SortedRows store entries rows) (distinct : plan.root.schema.DistinctFields)

include sorted

theorem SortedRows.nanFree_root {row : Row} (member : row ∈ rows) {record : Record}
    (held : plan.rootSlice? row = some record) : record.NanFree :=
  sorted.free row member _ (Entries.mem_of_get? (Option.filter_eq_some_iff.1 held).1)

include distinct

/-- Slices of the root that are read with equal values are one slice. -/
theorem SortedRows.eq_of_storedFields {left right : Row} (inLeft : left ∈ rows)
    (inRight : right ∈ rows) {first second : Record} (held : plan.rootSlice? left = some first)
    (heldOther : plan.rootSlice? right = some second)
    (same : (storedFields .storage first plan.root.schema.columns).same
      (storedFields .storage second plan.root.schema.columns) = true) : first = second := by
  obtain ⟨key, there, alike⟩ :=
    Record.exists_of_same same (get?_storedFields distinct plan.root.schema.primaryKey_mem)
  rw [get?_storedFields distinct plan.root.schema.primaryKey_mem] at there
  obtain rfl := Option.some.inj there
  exact sorted.same left inLeft right inRight first second held heldOther alike

/-- Two rows are of one root iff their roots were read with the same values. -/
theorem SortedRows.sameRoot_iff {left right : Row} (inLeft : left ∈ rows) (inRight : right ∈ rows)
    {slices others : Slices} (draws : plan.Draws left slices)
    (drawsOther : plan.Draws right others) :
    sameRoot slices others = true ↔ storedRoot slices = storedRoot others := by
  obtain ⟨first, entity, held, found, made⟩ := draws
  obtain ⟨second, other, heldOther, foundOther, madeOther⟩ := drawsOther
  have compared : sameRoot slices others =
      (storedFields .storage first plan.root.schema.columns).same
        (storedFields .storage second plan.root.schema.columns) := by
    simp [sameRoot, has, found, foundOther, isSame_of_stored made.stored madeOther.stored,
      typeName, made.schema_eq, madeOther.schema_eq]
  rw [compared, storedRoot_eq found made, storedRoot_eq foundOther madeOther, Option.some_inj]
  constructor
  · intro same
    rw [sorted.eq_of_storedFields distinct inLeft inRight held heldOther same]
  · intro equal
    rw [← equal]
    exact Record.same_self (nanFree_storedFields .storage _ (sorted.nanFree_root inLeft held))

variable (sorts : store.Sorts) {leading rest : List OrderBy} {direction : Direction}
  (order : entries = leading ++ ⟨plan.root.keyColumn, direction⟩ :: rest)
  (steady : ∀ entry ∈ leading, plan.Steady store rows entry.column)

include sorts order steady

/-- Where the columns before the key of the root do not tell rows of one root apart, there is one
run of rows for each root. -/
theorem SortedRows.runs_apart {kept : List Row} (listed : kept.Sublist rows)
    {drawn : List Slices} (draws : List.Forall₂ plan.Draws kept drawn) :
    (runs drawn).Pairwise fun first second =>
      ∀ left ∈ first, ∀ right ∈ second, storedRoot left ≠ storedRoot right := by
  apply Blocks.pairwise_apart
  · intro left inLeft right inRight
    obtain ⟨row, there, draw⟩ := Pairing.exists_left draws inLeft
    obtain ⟨other, also, drawOther⟩ := Pairing.exists_left draws inRight
    exact sorted.sameRoot_iff distinct (listed.mem there) (listed.mem also) draw drawOther
  · intro left middle right between equal
    obtain ⟨partners, inside, related⟩ := Pairing.exists_sublist draws between
    have triple := inside.trans listed
    rcases related with _ | ⟨drawLeft, _ | ⟨drawMiddle, _ | ⟨drawRight, _ | _⟩⟩⟩
    obtain ⟨first, entity, held, found, made⟩ := drawLeft
    obtain ⟨second, _, heldMiddle, foundMiddle, madeMiddle⟩ := drawMiddle
    obtain ⟨third, _, heldRight, foundRight, madeRight⟩ := drawRight
    rw [storedRoot_eq found made, storedRoot_eq foundRight madeRight, Option.some_inj] at equal
    -- The rows on both sides hold one slice of the root, and so does the row between them.
    have inLeft := triple.mem List.mem_cons_self
    have same : first = third := by
      apply sorted.eq_of_storedFields distinct inLeft (triple.mem (by simp)) held heldRight
      rw [← equal]
      exact Record.same_self (nanFree_storedFields .storage _ (sorted.nanFree_root inLeft held))
    obtain rfl := sorted.together sorts order steady triple held heldMiddle (same ▸ heldRight)
    rw [storedRoot_eq found made, storedRoot_eq foundMiddle madeMiddle]

/-- Where the columns before the key of the root do not tell rows of one root apart, no two roots
were read with one key; a key that was read is the key of its root. -/
theorem SortedRows.distinct_roots (labelled : plan.Labelled) (supply : Supply) :
    let roots := ((plan.materialize (rows.map plan.handed)).run supply).1
    (roots.Pairwise fun first second => first.storedKey.same second.storedKey = false) ∧
      ∀ root ∈ roots, root.storedKey.isNull = false → root.primaryKey? = some root.storedKey := by
  intro roots
  obtain ⟨kept, listed, draws⟩ := labelled.exists_draws rows supply
  have free : ∀ row ∈ rows.map plan.handed, row.NanFree := by
    intro row member
    obtain ⟨whole, there, rfl⟩ := List.mem_map.1 member
    exact nanFree_selected labelled.joined (sorted.free whole there)
  have heads : List.Forall₂ Heads (runs (drawnRoots plan rows supply)) roots :=
    heads_materialize free supply
  constructor
  · have apart := sorted.runs_apart distinct sorts order steady listed draws
    refine (Pairing.pairwise heads apart).imp ?_
    rintro left right ⟨first, inFirst, second, inSecond, headsLeft, headsRight, different⟩
    obtain ⟨slices, inside, row, there, record, held, stored, made⟩ :=
      headsLeft.exists_made draws inFirst
    obtain ⟨others, insideOther, other, also, another, heldOther, storedOther, madeOther⟩ :=
      headsRight.exists_made draws inSecond
    rw [← Bool.not_eq_true, made.storedKey_eq distinct, madeOther.storedKey_eq distinct]
    intro same
    apply different slices inside others insideOther
    rw [stored, storedOther, sorted.same row (listed.mem there) other (listed.mem also) record
      another held heldOther same]
  · intro root member present
    obtain ⟨run, inRuns, headed⟩ := Pairing.exists_left heads member
    obtain ⟨slices, -, row, -, record, -, -, made⟩ := headed.exists_made draws inRuns
    rw [made.storedKey_eq distinct] at present ⊢
    exact made.primaryKey?_eq distinct present

end Roots

end Plan

end EntityMapper
