import EntityMapper.Proofs.Filter.Rereading
import EntityMapper.Proofs.Plan.Population
import EntityMapper.Proofs.Session.Calls
import EntityMapper.Session.Entities

set_option autoImplicit false

/-! The error that there is no entity: it reports the filter that was asked with, as a document. -/

namespace EntityMapper

namespace Database

variable {σ : Type}

/-- Only what is registered is found, or not. -/
theorem find_of_findEntity_eq_ok {db : Database σ} {entity : String} {filter : Filter}
    {options : EntityOptions} {world after : World σ} {found : Option Entity}
    (ran : db.findEntity entity filter options world = (.ok found, after)) :
    ∃ schema, db.registry.find entity = .ok schema := by
  rw [findEntity, Session.result_bind] at ran
  cases asked : EntityQuery.findOne db.registry db.config entity filter options with
  | error error =>
      rw [asked] at ran
      cases ran
  | ok query =>
      obtain ⟨schema, -, registered, -⟩ := EntityQuery.build_eq_ok asked
      exact ⟨schema, registered⟩

/-- If no entity passes the filter, the error says of which type, and has the document of the
filter. -/
theorem findEntityOrFail_of_none {db : Database σ} {entity : String} {filter : Filter}
    {options : EntityOptions} {world after : World σ}
    (missing : db.findEntity entity filter options world = (.ok none, after)) :
    ∃ schema, db.registry.find entity = .ok schema ∧
      db.findEntityOrFail entity filter options world =
        (.error (.notFound schema.name schema.primaryKey.field (Filter.toJson filter)), after) := by
  obtain ⟨schema, registered⟩ := find_of_findEntity_eq_ok missing
  refine ⟨schema, registered, ?_⟩
  rw [findEntityOrFail, Session.bind_of_ok missing]
  change ((liftM (db.registry.find entity) : Session σ EntitySchema) >>= _) after = _
  rw [Session.definition_bind, registered]
  rfl

/-- The filter of a proper document is read back from the document it is reported as, but for
equality with null, of which the absence of a value is left. -/
theorem reported_filter_settles (db : Database σ) {document : Json} (proper : document.Proper)
    {filter : Filter} (read : Filter.ofJson document = .ok filter) :
    Filter.ofJson (Filter.toJson filter) = .ok (Filter.settled filter) ∧
      (Filter.settled filter = filter ↔
        ∀ entry ∈ Filter.conditions filter, entry.2 ≠ .eq .null) ∧
      ∀ entity options world after,
        db.findEntity entity filter options world = (.ok none, after) →
          ∃ schema, db.registry.find entity = .ok schema ∧
            db.findEntityOrFail entity filter options world =
              (.error (.notFound schema.name schema.primaryKey.field (Filter.toJson filter)),
                after) :=
  ⟨Filter.ofJson_toJson_of_read proper read, Filter.settled_eq_self filter,
    fun _ _ _ _ missing => findEntityOrFail_of_none missing⟩

/-- A range without an end and an empty branch are read back, and the author is missed under a
filter for the absence of a name. -/
theorem reported_filter_settles_author :
    let library : Database Unit := .mute EntityQuery.Catalogue.registry
    let document : Json := .object
      [("name", .object [("$eq", .null)]),
        ("$or", .array [.object [("id", .object [("$between", .object [("$from", .integer 1)])])],
          .object []])]
    let branches : List Filter := [[.column (.bare "id") (.between (.int 1) .null)], []]
    let filter : Filter := [.column (.bare "name") (.eq .null), .disjunction branches]
    document.Proper ∧ Filter.ofJson document = .ok filter ∧
      Filter.ofJson (Filter.toJson filter) =
        .ok [.column (.bare "name") .isNull, .disjunction branches] ∧
      (library.findEntityOrFail "Author" filter default .fresh).1 =
        .error (.notFound "Author" "id" (Filter.toJson filter)) := by
  intro library document branches filter
  have range : (Json.object [("$from", .integer 1)]).Proper :=
    .object (by decide) (List.forall_mem_singleton.2 (.integer (by decide) (by decide)))
  have between : (Json.object [("$between", .object [("$from", .integer 1)])]).Proper :=
    .object (by decide) (List.forall_mem_singleton.2 range)
  have first : (Json.object
      [("id", .object [("$between", .object [("$from", .integer 1)])])]).Proper :=
    .object (by decide) (List.forall_mem_singleton.2 between)
  have second : (Json.object []).Proper := .object List.nodup_nil (List.forall_mem_nil _)
  have equality : (Json.object [("$eq", .null)]).Proper :=
    .object (by decide) (List.forall_mem_singleton.2 .null)
  have proper : document.Proper := by
    refine .object (by decide) (List.forall_mem_cons.2 ⟨equality, List.forall_mem_singleton.2 ?_⟩)
    exact .array (List.forall_mem_cons.2 ⟨first, List.forall_mem_singleton.2 second⟩)
  have read : Filter.ofJson document = .ok filter := rfl
  obtain ⟨again, -, reported⟩ := library.reported_filter_settles proper read
  obtain ⟨schema, registered, failed⟩ := reported "Author" default .fresh _ rfl
  obtain rfl := Except.ok.inj registered
  exact ⟨proper, read, again, congrArg Prod.fst failed⟩

/-- Equality with null, which no row passes, is read as the absence of a value. -/
theorem equality_with_null_lost :
    let document : Json := .object [("a", .object [("$eq", .null)])]
    let filter : Filter := [.column (.bare "a") (.eq .null)]
    document.Proper ∧ Filter.ofJson document = .ok filter ∧
      Filter.toJson filter = .object [("a", .null)] ∧
      Filter.ofJson (Filter.toJson filter) = .ok [.column (.bare "a") .isNull] ∧
      Filter.ofJson (Filter.toJson filter) ≠ Filter.ofJson document ∧
      (Filter.clause filter).statement = .ok ⟨" WHERE \x60a\x60 = ?", [.null]⟩ ∧
      (Filter.clause [.column (.bare "a") .isNull]).statement =
        .ok ⟨" WHERE \x60a\x60 IS NULL", []⟩ := by
  intro document filter
  have equality : (Json.object [("$eq", .null)]).Proper :=
    .object (by decide) (List.forall_mem_singleton.2 .null)
  refine ⟨.object (by decide) (List.forall_mem_singleton.2 equality), rfl, rfl, rfl, ?_, rfl, rfl⟩
  rintro ⟨⟩

end Database

end EntityMapper
