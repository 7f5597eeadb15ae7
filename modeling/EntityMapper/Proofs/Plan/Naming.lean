import EntityMapper.Proofs.Filter.Columns
import EntityMapper.Proofs.Plan.Answering
import EntityMapper.Proofs.Plan.Scope

set_option autoImplicit false

/-! The names in a query for entities. Filter, grouping and order name fields, and the statement
names the columns that store them. Every table that is joined has a label, but only those of levels
are looked up: a field behind the label of a junction keeps its name. -/

namespace EntityMapper

/-- Where keys are different, a value is found by its own. -/
theorem find?_eq_some_iff_of_apart {α κ : Type} [DecidableEq κ] {key : α → κ} {values : List α}
    (apart : values.Pairwise fun left right => key left ≠ key right) {wanted : κ} {value : α} :
    (values.find? fun each => key each = wanted) = some value ↔
      value ∈ values ∧ key value = wanted := by
  constructor
  · intro found
    exact ⟨List.mem_of_find?_eq_some found, by simpa using List.find?_some found⟩
  · rintro ⟨member, rfl⟩
    cases found : values.find? fun each => key each = key value with
    | none =>
        have absent : ∀ each ∈ values, key each ≠ key value := by simpa using found
        exact absurd rfl (absent value member)
    | some other =>
        have same : key other = key value := by simpa using List.find?_some found
        rw [List.inj_on_of_nodup_map (List.pairwise_map.2 apart)
          (List.mem_of_find?_eq_some found) member same]

namespace EntitySchema

/-- What a name of a type is stored as. -/
inductive StoresAs (schema : EntitySchema) : String → String → Prop where
  | field {column : Column} (declared : column ∈ schema.columns) :
      StoresAs schema column.field column.storage
  /-- A name that is no field stands for itself. -/
  | other {name : String} (undeclared : ∀ column ∈ schema.columns, column.field ≠ name) :
      StoresAs schema name name

theorem storesAs_storageName (schema : EntitySchema) (name : String) :
    schema.StoresAs name (schema.storageName name) := by
  unfold storageName column?
  cases found : schema.columns.find? fun column => column.field = name with
  | none =>
      apply StoresAs.other
      simpa using found
  | some column =>
      have named : column.field = name := by simpa using List.find?_some found
      subst named
      exact .field (List.mem_of_find?_eq_some found)

/-- Where fields have different names, each name is stored in one way. -/
theorem DistinctFields.storageName_eq_iff {schema : EntitySchema}
    (distinct : schema.DistinctFields) {name stored : String} :
    schema.storageName name = stored ↔ schema.StoresAs name stored := by
  constructor
  · rintro rfl
    exact schema.storesAs_storageName name
  · intro stores
    unfold storageName column?
    cases stores with
    | field declared =>
        rw [(find?_eq_some_iff_of_apart distinct).2 ⟨declared, rfl⟩]
        rfl
    | other undeclared =>
        rw [List.find?_eq_none.2 (by simpa using undeclared)]
        rfl

end EntitySchema

/-- A table is that of one of the levels, or of the junction that leads to one. -/
def Level.JoinedFor (registry : Registry) (levels : List Level) (table : Level) : Prop :=
  table ∈ levels ∨ ∃ level ∈ levels, ∃ through,
    level.junction? = some through ∧ registry.get? through = some table.schema

theorem Level.JoinedFor.cons {registry : Registry} {levels : List Level} {table : Level}
    (joined : table.JoinedFor registry levels) (level : Level) :
    table.JoinedFor registry (level :: levels) := by
  rcases joined with own | ⟨other, listed, leads⟩
  · exact Or.inl (List.mem_cons_of_mem _ own)
  · exact Or.inr ⟨other, List.mem_cons_of_mem _ listed, leads⟩

namespace TablesOf

variable {registry : Registry} {levels tables : List Level}

theorem joinedFor (tablesOf : TablesOf registry levels tables) :
    ∀ table ∈ tables, table.JoinedFor registry levels := by
  induction tablesOf with
  | nil => exact List.forall_mem_nil _
  | @direct level _ _ _ _ ih =>
      refine List.forall_mem_cons.2 ⟨Or.inl List.mem_cons_self, ?_⟩
      exact fun table joined => (ih table joined).cons level
  | @through level _ _ _ _ leads found _ ih =>
      refine List.forall_mem_cons.2 ⟨Or.inr ⟨level, List.mem_cons_self, _, leads, found⟩, ?_⟩
      refine List.forall_mem_cons.2 ⟨Or.inl List.mem_cons_self, ?_⟩
      exact fun table joined => (ih table joined).cons level

theorem eq_nil_iff (tablesOf : TablesOf registry levels tables) : tables = [] ↔ levels = [] := by
  cases tablesOf <;> simp

end TablesOf

/-- The tables of joins, each under its label. -/
theorem Join.AddInTurn.tables_eq {before tables : List Level} {joins : List Join}
    (inTurn : Join.AddInTurn before tables joins) :
    joins.map Join.table =
      tables.map fun table => Resolution.labelled table.schema.table table.label := by
  induction inTurn with
  | nil => rfl
  | cons adds _ ih => rw [List.map_cons, List.map_cons, adds.table, ih]

/-- What a reference means in a query that joins tables for the levels of a plan. -/
inductive Plan.Means (plan : Plan) (tables : List Level) : ColumnRef → ColumnRef → Prop where
  | alone {name stored : String} (unjoined : tables = [])
      (stores : plan.root.schema.StoresAs name stored) :
      Means plan tables (.bare name) (.bare stored)
  | root {name stored : String} (joined : tables ≠ [])
      (stores : plan.root.schema.StoresAs name stored) :
      Means plan tables (.bare name) (.qualified plan.root.label stored)
  | level {level : Level} {name stored : String} (listed : level ∈ plan.levels)
      (stores : level.schema.StoresAs name stored) :
      Means plan tables (.qualified level.label name) (.qualified level.label stored)
  /-- A name behind the label of a junction is taken for that of a column. -/
  | junction {table : Level} {name : String} (joined : table ∈ tables)
      (between : table ∉ plan.levels) :
      Means plan tables (.qualified table.label name) (.qualified table.label name)
  | elsewhere {label name : String} (unused : ∀ table ∈ plan.root :: tables, table.label ≠ label) :
      Means plan tables (.qualified label name) (.qualified label name)

namespace Resolution

variable {registry : Registry} {tables : List Level} {resolution : Resolution}

theorem mapColumn_of_unlisted {label : String}
    (unlisted : ∀ level ∈ resolution.plan.levels, level.label ≠ label) (name : String) :
    resolution.mapColumn (.qualified label name) = .qualified label name := by
  have missing : (resolution.plan.levels.find? fun level => level.label = label) = none := by
    simpa using unlisted
  simp only [mapColumn, ColumnRef.qualified, missing]

namespace Arranges

theorem sublist (arranges : Arranges registry tables resolution) :
    resolution.plan.levels.Sublist (resolution.plan.root :: tables) :=
  arranges.tablesOf.sublist.cons_cons resolution.plan.root

theorem apart_levels (arranges : Arranges registry tables resolution) :
    resolution.plan.levels.Pairwise fun left right => left.label ≠ right.label :=
  arranges.apart.sublist arranges.sublist

theorem mapColumn_of_listed (arranges : Arranges registry tables resolution) {level : Level}
    (listed : level ∈ resolution.plan.levels) (name : String) :
    resolution.mapColumn (.qualified level.label name) =
      .qualified level.label (level.schema.storageName name) := by
  have found : (resolution.plan.levels.find? fun other => other.label = level.label) = some level :=
    (find?_eq_some_iff_of_apart arranges.apart_levels).2 ⟨listed, rfl⟩
  simp only [mapColumn, ColumnRef.qualified, found, Level.column]

/-- A bare name is one of the roots, which are named as soon as anything is joined. -/
theorem mapColumn_bare (arranges : Arranges registry tables resolution) (name : String) :
    (tables = [] ∧ resolution.mapColumn (.bare name) =
        .bare (resolution.plan.root.schema.storageName name)) ∨
      (tables ≠ [] ∧ resolution.mapColumn (.bare name) =
        .qualified resolution.plan.root.label (resolution.plan.root.schema.storageName name)) := by
  have unjoined : resolution.plan.others = [] ↔ tables = [] := arranges.tablesOf.eq_nil_iff.symm
  by_cases alone : tables = []
  · have single : resolution.plan.isJoined = false := by simp [Plan.isJoined, unjoined.2 alone]
    simp [mapColumn, ColumnRef.bare, single, alone]
  · have several : resolution.plan.isJoined = true := by
      simpa [Plan.isJoined] using mt unjoined.1 alone
    simp [mapColumn, ColumnRef.bare, several, alone, Level.column]

/-- A table that is joined for no level shares its label with none. -/
theorem label_ne_of_between (arranges : Arranges registry tables resolution) {table : Level}
    (joined : table ∈ tables) (between : table ∉ resolution.plan.levels) :
    ∀ level ∈ resolution.plan.levels, level.label ≠ table.label := by
  intro level listed same
  have equal : level = table :=
    List.inj_on_of_nodup_map (List.pairwise_map.2 arranges.apart) (arranges.sublist.subset listed)
      (List.mem_cons_of_mem _ joined) same
  exact between (equal ▸ listed)

theorem distinctFields (arranges : Arranges registry tables resolution) (regular : registry.Regular)
    {level : Level} (listed : level ∈ resolution.plan.levels) : level.schema.DistinctFields := by
  obtain ⟨name, found⟩ := arranges.found level (arranges.sublist.subset listed)
  exact (regular name _ found).2

/-- Every reference is replaced by what it means. -/
theorem means_mapColumn (arranges : Arranges registry tables resolution) (reference : ColumnRef) :
    resolution.plan.Means tables reference (resolution.mapColumn reference) := by
  obtain ⟨label, name⟩ := reference
  cases label with
  | none =>
      have stores := resolution.plan.root.schema.storesAs_storageName name
      rcases arranges.mapColumn_bare name with ⟨alone, mapped⟩ | ⟨joined, mapped⟩
      · exact mapped ▸ .alone alone stores
      · exact mapped ▸ .root joined stores
  | some label =>
      by_cases listed : ∃ level ∈ resolution.plan.levels, level.label = label
      · obtain ⟨level, listed, rfl⟩ := listed
        exact arranges.mapColumn_of_listed listed name ▸
          .level listed (level.schema.storesAs_storageName name)
      · have unlisted : ∀ level ∈ resolution.plan.levels, level.label ≠ label := by
          simpa using listed
        rw [show ColumnRef.mk (some label) name = .qualified label name from rfl,
          mapColumn_of_unlisted unlisted name]
        by_cases used : ∃ table ∈ tables, table.label = label
        · obtain ⟨table, joined, rfl⟩ := used
          exact .junction joined fun listed => unlisted table listed rfl
        · apply Plan.Means.elsewhere
          refine List.forall_mem_cons.2 ⟨unlisted _ List.mem_cons_self, ?_⟩
          exact fun table joined same => used ⟨table, joined, same⟩

/-- A reference has one meaning, as labels tell tables apart and names fields. -/
theorem mapColumn_eq_iff (arranges : Arranges registry tables resolution)
    (regular : registry.Regular) {reference column : ColumnRef} :
    resolution.mapColumn reference = column ↔ resolution.plan.Means tables reference column := by
  constructor
  · rintro rfl
    exact arranges.means_mapColumn reference
  · intro means
    have rootFields := arranges.distinctFields regular List.mem_cons_self
    cases means with
    | @alone name stored unjoined stores =>
        rcases arranges.mapColumn_bare name with ⟨-, mapped⟩ | ⟨joined, -⟩
        · rw [mapped, rootFields.storageName_eq_iff.2 stores]
        · exact absurd unjoined joined
    | @root name stored joined stores =>
        rcases arranges.mapColumn_bare name with ⟨unjoined, -⟩ | ⟨-, mapped⟩
        · exact absurd unjoined joined
        · rw [mapped, rootFields.storageName_eq_iff.2 stores]
    | level listed stores =>
        have fields := arranges.distinctFields regular listed
        rw [arranges.mapColumn_of_listed listed, fields.storageName_eq_iff.2 stores]
    | junction joined between =>
        exact mapColumn_of_unlisted (arranges.label_ne_of_between joined between) _
    | elsewhere unused =>
        apply mapColumn_of_unlisted
        intro level listed
        exact unused level (arranges.sublist.subset listed)

end Arranges

end Resolution

namespace EntityQuery

/-- How the names in a query for entities are written: `tables` are joined to that of the roots, and
`written` takes the place of every reference. -/
structure Named (registry : Registry) (entity : String) (filter : Filter) (options : EntityOptions)
    (query : EntityQuery) (tables : List Level) (written : ColumnRef → ColumnRef) : Prop where
  root : ∃ root, registry.get? entity = some root ∧ query.plan.root = .root root
  labels : ((query.plan.root :: tables).map Level.label).Nodup
  /-- All levels are joined, and apart from them the junctions that lead to them. -/
  levels : query.plan.others.Sublist tables
  joined : ∀ table ∈ tables, table.JoinedFor registry query.plan.others
  means : ∀ reference column,
    written reference = column ↔ query.plan.Means tables reference column
  /-- References are replaced in groups at any depth. -/
  conditions : Filter.conditions (Filter.mapColumns written filter) =
    (Filter.conditions filter).map fun entry => (written entry.1, entry.2)
  /-- Behind the order that is asked for there are only keys of levels. -/
  statement : ∃ joins keys page,
    joins.map Join.table =
      (tables.map fun table => Resolution.labelled table.schema.table table.label) ∧
    (∀ entry ∈ keys, ∃ level ∈ query.plan.levels, entry = ⟨level.keyColumn, .ascending⟩) ∧
    (Query.paged (.named query.plan.root.schema.table) (Filter.mapColumns written filter)
      { select := selection query.plan
        joins := joins
        groupBy := options.groupBy.map written
        orderBy :=
          (options.orderBy.map fun entry => { entry with column := written entry.column }) ++ keys
        page := none }
      page).statement = .ok query.statement

/-- What is asked for comes first in the order, with other references. -/
theorem exists_order_mapped (config : Config) (resolution : Resolution) (entries : List OrderBy) :
    ∃ keys, order config resolution entries =
        (entries.map fun entry =>
          { entry with column := resolution.mapColumn entry.column }) ++ keys ∧
      ∀ entry ∈ keys, ∃ level ∈ resolution.plan.levels, entry = ⟨level.keyColumn, .ascending⟩ := by
  unfold order
  split
  · exact exists_orderByKeys _ _
  · exact ⟨[], (List.append_nil _).symm, List.forall_mem_nil _⟩

namespace Casting

private def identifier : Column := { Column.plain "id" .int with primaryKey := true }

private def stored (field storage : String) (type : DataType) : Column :=
  { Column.plain field type with storage := storage }

def actor : EntityDescription :=
  ⟨"Actor", "actors", [identifier, stored "name" "full_name" .varchar],
    [⟨"movies", "Movie", .belongsToMany "Part"⟩]⟩

def movie : EntityDescription :=
  ⟨"Movie", "movies", [identifier, stored "year" "released" .int], []⟩

/-- A part of an actor in a movie. -/
def part : EntityDescription :=
  ⟨"Part", "parts",
    [identifier, stored "actorId" "actor_id" .int, stored "movieId" "movie_id" .int],
    [⟨"actor", "Actor", .belongsTo "actorId"⟩, ⟨"movie", "Movie", .belongsTo "movieId"⟩]⟩

def registry : Registry := (Registry.ofDescriptions [actor, movie, part]).toOption.getD default

end Casting

/-- The references in a query for entities, in its filter at any depth, its grouping and its order,
are replaced by what they mean: fields of the roots and of levels by the columns that store them,
bare ones under the label of the roots as soon as anything is joined. Fields of junctions, which are
joined under labels too, are left as they are. -/
theorem references_written {descriptions : List EntityDescription} {registry : Registry}
    (built : Registry.ofDescriptions descriptions = .ok registry) {config : Config}
    {entity : String} {filter : Filter} {options : EntityOptions} {single : Bool}
    {query : EntityQuery}
    (success : build registry config entity filter options single = .ok query) :
    ∃ tables written, query.Named registry entity filter options tables written := by
  obtain ⟨root, resolution, found, resolved, compiled, same⟩ := build_eq_ok success
  have listed := Registry.find_eq_ok found
  have regular := Registry.regular_ofDescriptions built
  obtain ⟨tables, arranges⟩ :=
    Resolution.arranges_ofPopulates (Registry.checked_ofDescriptions built) listed resolved
  refine ⟨tables, resolution.mapColumn, ?_⟩
  constructor
  · exact ⟨root, listed, same ▸ Resolution.root_ofPopulates resolved⟩
  · rw [same, List.Nodup, List.pairwise_map]
    exact arranges.apart
  · rw [same]
    exact arranges.tablesOf.sublist
  · rw [same]
    exact arranges.tablesOf.joinedFor
  · intro reference column
    rw [same]
    exact arranges.mapColumn_eq_iff regular
  · exact Filter.conditions_mapColumns resolution.mapColumn filter
  · obtain ⟨keys, ordered, ofLevels⟩ := exists_order_mapped config resolution options.orderBy
    refine ⟨resolution.joins, keys, page config resolution.plan single options.page,
      arranges.inTurn.tables_eq, ?_, ?_⟩
    · rw [same]
      exact ofLevels
    · rw [fragment, ordered] at compiled
      rw [same]
      exact compiled

/-- Actors with their movies: fields in a nested group, in the grouping and in the order are written
as the columns of their tables. -/
theorem references_written_casting :
    let filter : Filter := [.disjunction [[.column (.bare "name") (.eq (.text "Ada"))],
      [.conjunction [[.column (.qualified "movies" "year") (.gt (.int 1999))]]]]]
    let options : EntityOptions :=
      ⟨[.mk "movies" []], [⟨.qualified "movies" "year", .descending⟩], [.bare "name"], none⟩
    Registry.ofDescriptions [Casting.actor, Casting.movie, Casting.part] = .ok Casting.registry ∧
      (∃ query, build Casting.registry .standard "Actor" filter options false = .ok query ∧
        ∃ tables written, query.Named Casting.registry "Actor" filter options tables written) ∧
      (build Casting.registry .standard "Actor" filter options false).toOption.map
          (fun query => query.statement.text) =
        some ("SELECT \x60actors\x60.*, \x60movies\x60.* FROM \x60actors\x60" ++
          " INNER JOIN \x60parts\x60" ++
          " ON \x60actors\x60.\x60id\x60 = \x60parts\x60.\x60actor_id\x60" ++
          " INNER JOIN \x60movies\x60" ++
          " ON \x60parts\x60.\x60movie_id\x60 = \x60movies\x60.\x60id\x60" ++
          " WHERE (\x60actors\x60.\x60full_name\x60 = ?)" ++
          " OR ((\x60movies\x60.\x60released\x60 > ?))" ++
          " GROUP BY \x60actors\x60.\x60full_name\x60" ++
          " ORDER BY \x60movies\x60.\x60released\x60 DESC, \x60actors\x60.\x60id\x60 ASC," ++
          " \x60movies\x60.\x60id\x60 ASC LIMIT ? OFFSET ?;") := by
  intro filter options
  have built : Registry.ofDescriptions [Casting.actor, Casting.movie, Casting.part] =
      .ok Casting.registry := rfl
  obtain ⟨query, planned⟩ : ∃ query,
      build Casting.registry .standard "Actor" filter options false = .ok query := ⟨_, rfl⟩
  exact ⟨built, ⟨query, planned, references_written built planned⟩, by decide +kernel⟩

/-- A field of a junction that is named by the label of its table: the join uses the column that
stores it, the filter one of the name of the field. -/
theorem junction_reference_kept :
    let filter : Filter := [.column (.qualified "parts" "actorId") (.eq (.int 1))]
    Registry.ofDescriptions [Casting.actor, Casting.movie, Casting.part] = .ok Casting.registry ∧
      (Casting.registry.get? "Part").map (fun part => (part.table, part.storageName "actorId")) =
        some ("parts", "actor_id") ∧
      (find Casting.registry .standard "Actor" filter
          ⟨[.mk "movies" []], [], [], none⟩).toOption.map (fun query => query.statement.text) =
        some ("SELECT \x60actors\x60.*, \x60movies\x60.* FROM \x60actors\x60" ++
          " INNER JOIN \x60parts\x60" ++
          " ON \x60actors\x60.\x60id\x60 = \x60parts\x60.\x60actor_id\x60" ++
          " INNER JOIN \x60movies\x60" ++
          " ON \x60parts\x60.\x60movie_id\x60 = \x60movies\x60.\x60id\x60" ++
          " WHERE \x60parts\x60.\x60actorId\x60 = ?" ++
          " ORDER BY \x60actors\x60.\x60id\x60 ASC, \x60movies\x60.\x60id\x60 ASC" ++
          " LIMIT ? OFFSET ?;") :=
  ⟨rfl, rfl, by decide +kernel⟩

end EntityQuery

end EntityMapper
