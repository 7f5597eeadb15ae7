import EntityMapper.Plan.EntityQuery
import EntityMapper.Proofs.Plan.Resolution

set_option autoImplicit false

/-! The steps of building a query for entities. -/

namespace EntityMapper.EntityQuery

open Outcome

/-- A query that is built has the levels of its associations and the statement of its fragment. -/
theorem build_eq_ok {registry : Registry} {config : Config} {entity : String} {filter : Filter}
    {options : EntityOptions} {single : Bool} {query : EntityQuery}
    (success : build registry config entity filter options single = .ok query) :
    ∃ root resolution, registry.find entity = .ok root ∧
      Resolution.ofPopulates registry root options.populate = .ok resolution ∧
      (fragment config resolution filter options single).statement = .ok query.statement ∧
      query.plan = resolution.plan := by
  obtain ⟨root, found, success⟩ := bind_eq_ok success
  obtain ⟨resolution, resolved, success⟩ := bind_eq_ok success
  obtain ⟨statement, written, success⟩ := bind_eq_ok success
  obtain rfl := Except.ok.inj success
  exact ⟨root, resolution, mapError_eq_ok found, mapError_eq_ok resolved, mapError_eq_ok written,
    rfl⟩

theorem count_eq_ok {registry : Registry} {entity : String} {filter : Filter}
    {statement : Statement} (success : count registry entity filter = .ok statement) :
    ∃ schema, registry.find entity = .ok schema ∧
      (Query.count (.named schema.table) (storageFilter schema filter) default).statement =
        .ok statement := by
  obtain ⟨schema, found, success⟩ := bind_eq_ok success
  exact ⟨schema, mapError_eq_ok found, mapError_eq_ok success⟩

end EntityMapper.EntityQuery
