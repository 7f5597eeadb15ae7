import EntityMapper.Proofs.Plan.EntityQuery
import EntityMapper.Proofs.Plan.Label
import EntityMapper.Proofs.Plan.Preorder
import EntityMapper.Proofs.Pairing

set_option autoImplicit false

/-! The tables of a query and their joins. Every table has a label of its own, and every join
compares a column of a table that is there already with one of the table that it adds. -/

namespace EntityMapper

open Outcome

namespace Level

/-- A column that stores a field of the level, under its label. -/
def Stores (level : Level) (column : ColumnRef) : Prop :=
  ∃ stored ∈ level.schema.columns, column = .qualified level.label stored.storage

/-- The entity whose rows lead to the level, where the association goes by way of one. -/
def junction? (level : Level) : Option String :=
  level.origin.bind fun origin =>
    match origin.association.link with
    | .belongsToMany junction => some junction
    | _ => none

theorem stores_keyColumn (level : Level) : level.Stores level.keyColumn :=
  ⟨level.schema.primaryKey, level.schema.primaryKey_mem, rfl⟩

theorem stores_column {level : Level} {field : String}
    (stored : ∃ column ∈ level.schema.columns, level.schema.storageName field = column.storage) :
    level.Stores (level.column field) := by
  obtain ⟨column, member, named⟩ := stored
  exact ⟨column, member, congrArg (ColumnRef.qualified level.label) named⟩

end Level

/-- The tables that are joined for levels: for each of them its own, and before it the one of the
junction, if there is one. -/
inductive TablesOf (registry : Registry) : List Level → List Level → Prop where
  | nil : TablesOf registry [] []
  | direct {level : Level} {levels tables : List Level} (direct : level.junction? = none)
      (rest : TablesOf registry levels tables) :
      TablesOf registry (level :: levels) (level :: tables)
  | through {level between : Level} {levels tables : List Level} {through : String}
      (leads : level.junction? = some through)
      (found : registry.get? through = some between.schema)
      (rest : TablesOf registry levels tables) :
      TablesOf registry (level :: levels) (between :: level :: tables)

namespace TablesOf

variable {registry : Registry} {levels others tables more : List Level}

theorem append (first : TablesOf registry levels tables)
    (second : TablesOf registry others more) :
    TablesOf registry (levels ++ others) (tables ++ more) := by
  induction first with
  | nil => exact second
  | direct direct _ ih => exact .direct direct ih
  | through leads found _ ih => exact .through leads found ih

/-- One table for each level, and one more for each junction. -/
theorem length_eq (tablesOf : TablesOf registry levels tables) :
    tables.length = levels.length + levels.countP fun level => level.junction?.isSome := by
  induction tablesOf with
  | nil => rfl
  | direct direct _ ih =>
      rw [List.length_cons, List.length_cons, ih, List.countP_cons_of_neg (by simp [direct])]
      omega
  | through leads _ _ ih =>
      rw [List.length_cons, List.length_cons, List.length_cons, ih,
        List.countP_cons_of_pos (by simp [leads])]
      omega

/-- The tables of the levels are there, in their order. -/
theorem sublist (tablesOf : TablesOf registry levels tables) : levels.Sublist tables := by
  induction tablesOf with
  | nil => exact List.Sublist.slnil
  | direct _ _ ih => exact ih.cons_cons _
  | through _ _ _ ih => exact (ih.cons_cons _).cons _

theorem mem (tablesOf : TablesOf registry levels tables) : ∀ level ∈ levels, level ∈ tables :=
  fun _ listed => tablesOf.sublist.subset listed

end TablesOf

/-- A join adds a table under its label, where a column of the tables before it and one of its own
are equal. -/
structure Join.Adds (before : List Level) (target : Level) (join : Join) : Prop where
  kind : join.kind = .inner
  table : join.table = Resolution.labelled target.schema.table target.label
  left : ∃ table ∈ before, table.Stores join.left
  right : target.Stores join.right

/-- Joins add tables one after the other. -/
inductive Join.AddInTurn : List Level → List Level → List Join → Prop where
  | nil {before : List Level} : AddInTurn before [] []
  | cons {before tables : List Level} {target : Level} {join : Join} {joins : List Join}
      (adds : join.Adds before target) (rest : AddInTurn (before ++ [target]) tables joins) :
      AddInTurn before (target :: tables) (join :: joins)

namespace Join.AddInTurn

variable {before tables more : List Level} {joins others : List Join}

theorem append (first : AddInTurn before tables joins)
    (second : AddInTurn (before ++ tables) more others) :
    AddInTurn before (tables ++ more) (joins ++ others) := by
  induction first with
  | nil => rwa [List.append_nil] at second
  | cons adds _ ih =>
      apply AddInTurn.cons adds
      apply ih
      rwa [List.append_assoc, List.singleton_append]

theorem length_eq (inTurn : AddInTurn before tables joins) : joins.length = tables.length := by
  induction inTurn with
  | nil => rfl
  | cons _ _ ih => rw [List.length_cons, List.length_cons, ih]

end Join.AddInTurn

namespace Resolution

/-- Tables are joined for the levels so far, each under a label of its own that is in use. -/
structure Arranges (registry : Registry) (tables : List Level) (resolution : Resolution) :
    Prop where
  tablesOf : TablesOf registry resolution.plan.others tables
  found : ∀ table ∈ resolution.plan.root :: tables,
    ∃ name, registry.get? name = some table.schema
  known : ∀ table ∈ resolution.plan.root :: tables, table.label ∈ resolution.labels
  apart : (resolution.plan.root :: tables).Pairwise fun left right => left.label ≠ right.label
  inTurn : Join.AddInTurn [resolution.plan.root] tables resolution.joins

/-- The joins of one association add the table of its targets, and before it the tables between,
under labels that were not in use. -/
structure Brings (registry : Registry) (before : List Level) (target : Level)
    (resolution linked : Resolution) (between : List Level) (added : List Join) : Prop where
  tablesOf : TablesOf registry [target] (between ++ [target])
  found : ∀ table ∈ between, ∃ name, registry.get? name = some table.schema
  fresh : ∀ table ∈ between, table.label ∉ resolution.labels
  apart : between.Pairwise fun left right => left.label ≠ right.label
  labels : linked.labels = resolution.labels ++ between.map Level.label
  joins : linked.joins = resolution.joins ++ added
  inTurn : Join.AddInTurn before (between ++ [target]) added

variable {registry : Registry} {parent : Nat} {owner target : Level} {association : Association}
  {before : List Level} {resolution linked : Resolution}

theorem adds_innerJoin {left right : ColumnRef} (first : ∃ table ∈ before, table.Stores left)
    (second : target.Stores right) :
    (innerJoin target.schema.table target.label left right).Adds before target :=
  ⟨rfl, rfl, first, second⟩

/-- An association that needs no junction brings one join. -/
theorem brings_addJoin {left right : ColumnRef} (direct : target.junction? = none)
    (first : ∃ table ∈ before, table.Stores left) (second : target.Stores right) :
    Brings registry before target resolution
      (resolution.addJoin (innerJoin target.schema.table target.label left right)) []
      [innerJoin target.schema.table target.label left right] where
  tablesOf := .direct direct .nil
  found _ none := absurd none List.not_mem_nil
  fresh _ none := absurd none List.not_mem_nil
  apart := .nil
  labels := (List.append_nil _).symm
  joins := rfl
  inTurn := .cons (adds_innerJoin first second) .nil

theorem brings_link (checked : registry.Checked)
    (declared : association ∈ owner.schema.associations)
    (registered : ∃ name, registry.get? name = some owner.schema)
    (found : registry.get? association.target = some target.schema)
    (attached : target.origin = some ⟨parent, association⟩) (there : owner ∈ before)
    (success : resolution.link registry owner target association = .ok linked) :
    ∃ between added, Brings registry before target resolution linked between added := by
  obtain ⟨name, known⟩ := registered
  have ownerKey : ∃ table ∈ before, table.Stores owner.keyColumn :=
    ⟨owner, there, owner.stores_keyColumn⟩
  have junction : target.junction? =
      match association.link with
      | .belongsToMany junction => some junction
      | _ => none := by
    rw [Level.junction?, attached]
    rfl
  unfold link at success
  cases kind : association.link with
  | belongsTo key =>
      rw [kind] at success junction
      obtain rfl := Except.ok.inj success
      refine ⟨_, _, brings_addJoin junction ⟨owner, there, ?_⟩ target.stores_keyColumn⟩
      exact Level.stores_column (checked.belongsTo known ⟨association, declared, rfl, kind⟩)
  | hasOne key =>
      rw [kind] at success junction
      obtain rfl := Except.ok.inj success
      refine ⟨_, _, brings_addJoin junction ownerKey ?_⟩
      exact Level.stores_column (checked.refersBack known declared found (Or.inl kind))
  | hasMany key =>
      rw [kind] at success junction
      obtain rfl := Except.ok.inj success
      refine ⟨_, _, brings_addJoin junction ownerKey ?_⟩
      exact Level.stores_column (checked.refersBack known declared found (Or.inr kind))
  | belongsToMany through =>
      rw [kind] at success junction
      obtain ⟨between, keys, success⟩ := bind_eq_ok success
      obtain ⟨listed, toOwner, toTarget⟩ := Registry.junction_eq_ok keys
      obtain rfl := Except.ok.inj success
      let table : Level := ⟨(resolution.reserve between.schema.table).1, between.schema, none⟩
      have stores : ∀ (entity key : String), between.schema.BelongsTo entity key →
          table.Stores (table.column key) :=
        fun entity key belongs => Level.stores_column (checked.belongsTo listed belongs)
      have toJunction : (innerJoin table.schema.table table.label owner.keyColumn
          (table.column between.ownerKey)).Adds before table :=
        adds_innerJoin ownerKey (stores _ _ ((toOwner _).2 rfl))
      have fromJunction : (innerJoin target.schema.table target.label
          (table.column between.targetKey) target.keyColumn).Adds (before ++ [table]) target :=
        adds_innerJoin ⟨table, List.mem_append_right _ List.mem_cons_self,
          stores _ _ ((toTarget _).2 rfl)⟩ target.stores_keyColumn
      exact ⟨[table], _, {
        tablesOf := .through junction listed .nil
        found := List.forall_mem_singleton.2 ⟨through, listed⟩
        fresh := List.forall_mem_singleton.2 (Label.fresh_not_mem _ _ _)
        apart := List.pairwise_singleton _ _
        labels := rfl
        joins := List.append_assoc _ _ _
        inTurn := .cons toJunction (.cons fromJunction .nil) }⟩

/-- Tables under labels that are in use have other labels than tables under labels that are not. -/
theorem apart_append {labels : List String} {tables more : List Level}
    (apart : tables.Pairwise fun left right => left.label ≠ right.label)
    (known : ∀ table ∈ tables, table.label ∈ labels)
    (others : more.Pairwise fun left right => left.label ≠ right.label)
    (fresh : ∀ table ∈ more, table.label ∉ labels) :
    (tables ++ more).Pairwise fun left right => left.label ≠ right.label := by
  refine List.pairwise_append.2 ⟨apart, others, fun table member other new equal => ?_⟩
  exact fresh other new (equal ▸ known table member)

theorem arranges_start {root : EntitySchema} {name : String}
    (found : registry.get? name = some root) : Arranges registry [] (start root) where
  tablesOf := .nil
  found := List.forall_mem_singleton.2 ⟨name, found⟩
  known := List.forall_mem_singleton.2 List.mem_cons_self
  apart := List.pairwise_singleton _ _
  inTurn := .nil

/-- One association more, and its tables. -/
theorem Arranges.grows {before after : Resolution} {tables : List Level}
    (checked : registry.Checked) (arranges : Arranges registry tables before)
    (grows : Grows registry before parent owner target association after) :
    ∃ more, Arranges registry (tables ++ more) after := by
  have there : owner ∈ before.plan.root :: tables := by
    rcases List.mem_cons.1 (List.mem_of_getElem? grows.placed) with root | other
    · exact root ▸ List.mem_cons_self
    · exact List.mem_cons_of_mem _ (arranges.tablesOf.mem owner other)
  obtain ⟨linked, linking, rfl⟩ := grows.linked
  obtain ⟨between, added, brings⟩ := brings_link checked grows.declared (arranges.found owner there)
    grows.found grows.origin there linking
  have same : linked.plan = before.plan := (plan_link linking).trans (plan_reserve _ _)
  have reserved : (before.reserve target.schema.table).2.labels =
      before.labels ++ [target.label] := by
    rw [grows.label]
    rfl
  have fresh : target.label ∉ before.labels := by
    rw [grows.label]
    exact Label.fresh_not_mem _ _ _
  have labels : (linked.addLevel target).labels =
      before.labels ++ [target.label] ++ between.map Level.label :=
    brings.labels.trans (congrArg (· ++ _) reserved)
  have root : (linked.addLevel target).plan.root = before.plan.root := by
    rw [root_addLevel, same]
  have unused : ∀ table ∈ between, table.label ∉ before.labels ∧ table.label ≠ target.label := by
    intro table member
    have new := brings.fresh table member
    rwa [reserved, List.mem_append, List.mem_singleton, not_or] at new
  refine ⟨between ++ [target], ?_, ?_, ?_, ?_, ?_⟩
  · rw [others_addLevel, same]
    exact arranges.tablesOf.append brings.tablesOf
  · rw [root, ← List.cons_append, List.forall_mem_append]
    refine ⟨arranges.found, List.forall_mem_append.2 ⟨brings.found, ?_⟩⟩
    exact List.forall_mem_singleton.2 ⟨_, grows.found⟩
  · rw [root, ← List.cons_append, List.forall_mem_append, labels]
    refine ⟨?_, List.forall_mem_append.2 ⟨?_, ?_⟩⟩
    · intro table member
      exact List.mem_append_left _ (List.mem_append_left _ (arranges.known table member))
    · intro table member
      exact List.mem_append_right _ (List.mem_map_of_mem member)
    · exact List.forall_mem_singleton.2
        (List.mem_append_left _ (List.mem_append_right _ List.mem_cons_self))
  · rw [root, ← List.cons_append]
    have distinct : (between ++ [target]).Pairwise fun left right => left.label ≠ right.label := by
      refine List.pairwise_append.2 ⟨brings.apart, List.pairwise_singleton _ _, ?_⟩
      exact fun table member => List.forall_mem_singleton.2 (unused table member).2
    refine apart_append arranges.apart arranges.known distinct (List.forall_mem_append.2 ⟨?_, ?_⟩)
    · exact fun table member => (unused table member).1
    · exact List.forall_mem_singleton.2 fresh
  · rw [root]
    have all : (linked.addLevel target).joins = before.joins ++ added := brings.joins
    rw [all]
    exact arranges.inTurn.append brings.inTurn

/-- All tables of a query and their joins. -/
theorem arranges_ofPopulates {root : EntitySchema} {name : String} {populates : List Populate}
    (checked : registry.Checked) (found : registry.get? name = some root)
    (success : ofPopulates registry root populates = .ok resolution) :
    ∃ tables, Arranges registry tables resolution := by
  apply followAll_induction
    (motive := fun resolution => ∃ tables, Arranges registry tables resolution) _ success rfl
  · exact ⟨[], arranges_start found⟩
  · rintro before parent owner target association after grows ⟨tables, arranges⟩
    obtain ⟨more, extended⟩ := arranges.grows checked grows
    exact ⟨tables ++ more, extended⟩

/-- What a level stands for, told from the level. -/
theorem attached_ofPopulates {root : EntitySchema} {populates : List Populate}
    (success : ofPopulates registry root populates = .ok resolution) {index : Nat} {level : Level}
    (positive : 0 < index) (placed : resolution.plan.levels[index]? = some level) :
    ∃ origin owner, level.origin = some origin ∧ origin.parent < index ∧
      resolution.plan.levels[origin.parent]? = some owner ∧
      origin.association ∈ owner.schema.associations ∧
      registry.get? origin.association.target = some level.schema := by
  obtain ⟨before, rfl⟩ : ∃ before, index = before + 1 := ⟨index - 1, by omega⟩
  have other : resolution.plan.others[before]? = some level := by
    rwa [Plan.levels, List.getElem?_cons_succ] at placed
  obtain ⟨origin, attached, less⟩ := (ordered_ofPopulates success).parents before level other
  obtain ⟨node, -, owner, association, there, named, same, found⟩ :=
    Pairing.exists_left (nodes_ofPopulates success) (List.mem_of_getElem? other)
  cases attached.symm.trans same
  exact ⟨_, owner, attached, by omega, there, mem_of_associationFor named, found⟩

end Resolution

namespace EntityQuery

/-- How the levels, tables and joins of a query for entities are laid out. -/
structure LaidOut (registry : Registry) (entity : String) (options : EntityOptions)
    (query : EntityQuery) (tables : List Level) (joins : List Join) : Prop where
  root : ∃ root, registry.get? entity = some root ∧ query.plan.root = .root root
  /-- Behind the roots stand the associations that are asked for, in preorder. -/
  preorder : List.Forall₂ (query.plan.StandsFor registry)
    (Populate.nodesAll 0 1 options.populate) query.plan.others
  /-- Every other level is attached to one before it, by an association that is declared there and
  leads to as many entities of the type of the level. -/
  attached : ∀ (index : Nat) (level : Level), 0 < index →
    query.plan.levels[index]? = some level → ∃ origin owner, level.origin = some origin ∧
      origin.parent < index ∧ query.plan.levels[origin.parent]? = some owner ∧
      origin.association ∈ owner.schema.associations ∧
      registry.get? origin.association.target = some level.schema ∧
      level.cardinality = origin.association.cardinality
  /-- The statement has these joins, behind the table of the roots. -/
  statement : ∃ filter found page, FindOptions.joins found = joins ∧
    (Query.paged (.named query.plan.root.schema.table) filter found page).statement =
      .ok query.statement
  tablesOf : TablesOf registry query.plan.others tables
  labels : ((query.plan.root :: tables).map Level.label).Nodup
  /-- One join for each level behind the roots, and one more for each junction. -/
  count : joins.length = query.plan.others.length +
    query.plan.others.countP fun level => level.junction?.isSome
  inTurn : Join.AddInTurn [query.plan.root] tables joins

namespace Roster

private def number (field storage : String) (primaryKey : Bool) : Column :=
  ⟨field, storage, .int, none, none, none, false, primaryKey, false, false, []⟩

def person : EntityDescription :=
  ⟨"Person", "people", [number "id" "id" true, number "boss" "boss_id" false],
    [⟨"chief", "Person", .belongsTo "boss"⟩, ⟨"staff", "Person", .hasMany "boss"⟩,
      ⟨"teams", "Team", .belongsToMany "Member"⟩]⟩

def team : EntityDescription := ⟨"Team", "teams", [number "id" "id" true], []⟩

/-- Its table bears the name that the second table of persons gets in a query. -/
def member : EntityDescription :=
  ⟨"Member", "people_1",
    [number "id" "id" true, number "person" "person_id" false, number "team" "team_id" false],
    [⟨"person_of", "Person", .belongsTo "person"⟩, ⟨"team_of", "Team", .belongsTo "team"⟩]⟩

def descriptions : List EntityDescription := [person, team, member]

def registry : Registry := (Registry.ofDescriptions descriptions).toOption.getD default

/-- Persons with their superiors, and the teams of those. -/
def options : EntityOptions := ⟨[.mk "chief" [.mk "Team" []]], [], [], none⟩

end Roster

/-- The levels of a query are the roots and then the associations that are asked for, in preorder,
each attached to a level before it as its association is declared. All tables, those of junctions
among them, have labels of their own, and each join compares a stored column of a table that is
there already with one of the table that it adds. -/
theorem exists_laidOut {descriptions : List EntityDescription} {registry : Registry}
    (built : Registry.ofDescriptions descriptions = .ok registry) {config : Config}
    {entity : String} {filter : Filter} {options : EntityOptions} {query : EntityQuery}
    (success : find registry config entity filter options = .ok query) :
    ∃ tables joins, query.LaidOut registry entity options tables joins := by
  obtain ⟨root, resolution, found, resolved, written, same⟩ := build_eq_ok success
  have listed := Registry.find_eq_ok found
  have checked := Registry.checked_ofDescriptions built
  obtain ⟨tables, arranges⟩ := Resolution.arranges_ofPopulates checked listed resolved
  refine ⟨tables, resolution.joins, ?_⟩
  constructor
  · exact ⟨root, listed, same ▸ Resolution.root_ofPopulates resolved⟩
  · rw [same]
    exact Resolution.nodes_ofPopulates resolved
  · rw [same]
    intro index level positive placed
    obtain ⟨origin, owner, attached, less, there, declared, leads⟩ :=
      Resolution.attached_ofPopulates resolved positive placed
    refine ⟨origin, owner, attached, less, there, declared, leads, ?_⟩
    rw [Level.cardinality, attached, Option.elim_some]
  · rw [same]
    exact ⟨_, _, _, rfl, written⟩
  · rw [same]
    exact arranges.tablesOf
  · rw [same, List.Nodup, List.pairwise_map]
    exact arranges.apart
  · rw [same, arranges.inTurn.length_eq, arranges.tablesOf.length_eq]
  · rw [same]
    exact arranges.inTurn

/-- A table that occurs twice gets a label that is the name of a junction's table, which therefore
gets another one. -/
theorem exists_laidOut_roster :
    Registry.ofDescriptions Roster.descriptions = .ok Roster.registry ∧
      (∃ query, find Roster.registry .standard "Person" [] Roster.options = .ok query ∧
        ∃ tables joins, query.LaidOut Roster.registry "Person" Roster.options tables joins) ∧
      (find Roster.registry .standard "Person" [] Roster.options).toOption.map
          (fun query => (query.plan.levels.map Level.label, query.statement.text)) =
        some (["people", "people_1", "teams"],
          "SELECT \x60people\x60.*, \x60people_1\x60.*, \x60teams\x60.* FROM \x60people\x60" ++
            " INNER JOIN \x60people\x60 AS \x60people_1\x60" ++
            " ON \x60people\x60.\x60boss_id\x60 = \x60people_1\x60.\x60id\x60" ++
            " INNER JOIN \x60people_1\x60 AS \x60people_1_2\x60" ++
            " ON \x60people_1\x60.\x60id\x60 = \x60people_1_2\x60.\x60person_id\x60" ++
            " INNER JOIN \x60teams\x60" ++
            " ON \x60people_1_2\x60.\x60team_id\x60 = \x60teams\x60.\x60id\x60" ++
            " ORDER BY \x60people\x60.\x60id\x60 ASC, \x60people_1\x60.\x60id\x60 ASC," ++
            " \x60teams\x60.\x60id\x60 ASC LIMIT ? OFFSET ?;") := by
  have built : Registry.ofDescriptions Roster.descriptions = .ok Roster.registry := rfl
  obtain ⟨query, planned⟩ : ∃ query,
      find Roster.registry .standard "Person" [] Roster.options = .ok query := ⟨_, rfl⟩
  exact ⟨built, ⟨query, planned, exists_laidOut built planned⟩, by decide +kernel⟩

end EntityQuery

end EntityMapper
