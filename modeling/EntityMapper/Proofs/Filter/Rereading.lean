import EntityMapper.Proofs.Filter.Document
import EntityMapper.Proofs.Value.Reading

set_option autoImplicit false

/-! Filters that come from documents, and what is read of the documents they are written as. All of
a filter is read again as it was, but equality with null is written as null by itself, which stands
for the absence of a value. -/

namespace EntityMapper

theorem Json.Proper.lookup {members : List (String × Json)}
    (each : ∀ member ∈ members, member.2.Proper) {key : String} {value : Json}
    (found : members.lookup key = some value) : value.Proper := by
  obtain ⟨before, after, rfl, -⟩ := List.lookup_eq_some_iff.1 found
  exact each (key, value) (List.mem_append_right _ (List.mem_cons_self ..))

namespace Condition

/-- What is read of a condition once it is written. -/
def settled : Condition → Condition
  | .eq value => .equals value
  | condition => condition

theorem toJson_settled (condition : Condition) : condition.settled.toJson = condition.toJson := by
  cases condition with
  | eq value => cases value <;> rfl
  | _ => rfl

theorem settled_eq_self (condition : Condition) :
    condition.settled = condition ↔ condition ≠ .eq .null := by
  cases condition with
  | eq value => cases value <;> simp [settled, equals, Value.isNull]
  | _ => simp [settled]

theorem settled_ne_null (condition : Condition) : condition.settled ≠ .eq .null := by
  cases condition with
  | eq value => cases value <;> simp [settled, equals, Value.isNull]
  | _ =>
      intro same
      cases same

theorem operands_settled_subset (condition : Condition) :
    condition.settled.operands ⊆ condition.operands := by
  cases condition with
  | eq value => cases value <;> simp [settled, equals, Value.isNull, operands]
  | _ => exact List.Subset.refl _

/-- The operator of an object is one of its members. -/
theorem lookup_of_findOperator? {members : List (String × Json)} {operator : String}
    {argument : Json} (found : findOperator? members = some (operator, argument)) :
    members.lookup operator = some argument := by
  obtain ⟨key, -, here⟩ := List.exists_of_findSome?_eq_some found
  obtain ⟨value, held, same⟩ := Option.map_eq_some_iff.1 here
  obtain ⟨rfl, rfl⟩ := Prod.mk.inj same
  exact held

theorem portable_bounds {operator key : String} {argument : Json} (proper : argument.Proper)
    {range : Value × Value} (read : bounds operator key argument = .ok range) :
    range.1.Portable ∧ range.2.Portable := by
  cases proper with
  | @object members apart each =>
      have bound (name : String) : (Value.ofJson ((members.lookup name).getD .null)).Portable := by
        apply Value.portable_ofJson
        cases found : members.lookup name with
        | none => exact .null
        | some value => exact Json.Proper.lookup each found
      obtain rfl := Except.ok.inj read
      exact ⟨bound "$from", bound "$to"⟩
  | _ => cases read

theorem portable_items {operator key : String} {argument : Json} (proper : argument.Proper)
    {values : List Value} (read : items operator key argument = .ok values) :
    ∀ value ∈ values, value.Portable := by
  cases proper with
  | array each =>
      obtain rfl := Except.ok.inj read
      rw [Value.ofItems_eq_map]
      exact List.forall_mem_map.2 fun item member => Value.portable_ofJson (each item member)
  | _ => cases read

theorem portable_ofOperator {key operator : String} {argument : Json} (proper : argument.Proper)
    {condition : Condition} (read : ofOperator key operator argument = .ok condition) :
    ∀ value ∈ condition.operands, value.Portable := by
  unfold ofOperator at read
  split at read
  case h_9 | h_10 =>
    obtain ⟨range, within, rfl⟩ := Outcome.map_eq_ok read
    obtain ⟨least, greatest⟩ := portable_bounds proper within
    exact List.forall_mem_cons.2 ⟨least, List.forall_mem_singleton.2 greatest⟩
  case h_11 | h_12 =>
    obtain ⟨values, listed, rfl⟩ := Outcome.map_eq_ok read
    exact portable_items proper listed
  all_goals
    obtain rfl := Except.ok.inj read
    exact List.forall_mem_singleton.2 (Value.portable_ofJson proper)

/-- The conditions of proper documents are read with portable operands. -/
theorem portable_operands {key : String} {document : Json} (proper : document.Proper)
    {condition : Condition} (read : ofJson key document = .ok condition) :
    ∀ value ∈ condition.operands, value.Portable := by
  unfold ofJson at read
  split at read
  · obtain rfl := Except.ok.inj read
    exact List.forall_mem_nil _
  · cases proper with
    | object apart each =>
        split at read
        · rename_i found
          exact portable_ofOperator (.lookup each (lookup_of_findOperator? found)) read
        · cases read
  · obtain rfl := Except.ok.inj read
    exact List.forall_mem_singleton.2 (Value.portable_ofJson proper)

theorem portable_settled {key : String} {document : Json} (proper : document.Proper)
    {condition : Condition} (read : ofJson key document = .ok condition) :
    condition.settled.Portable :=
  ⟨settled_ne_null condition, fun value member =>
    portable_operands proper read value (operands_settled_subset condition member)⟩

end Condition

namespace Filter

mutual

/-- What is read of a criterion once it is written. -/
def settledCriterion : Criterion → Criterion
  | .column column condition => .column column condition.settled
  | .conjunction filters => .conjunction (settledGroup filters)
  | .disjunction filters => .disjunction (settledGroup filters)

/-- What is read of a filter once it is written. -/
def settled : List Criterion → List Criterion
  | [] => []
  | criterion :: rest => settledCriterion criterion :: settled rest

def settledGroup : List (List Criterion) → List (List Criterion)
  | [] => []
  | filter :: rest => settled filter :: settledGroup rest

end

mutual

theorem criterionToJson_settled : (criterion : Criterion) →
    criterionToJson (settledCriterion criterion) = criterionToJson criterion
  | .column column condition => by
      rw [settledCriterion, criterionToJson, criterionToJson, condition.toJson_settled]
  | .conjunction filters => by
      rw [settledCriterion, criterionToJson, criterionToJson, groupToJson_settled filters]
  | .disjunction filters => by
      rw [settledCriterion, criterionToJson, criterionToJson, groupToJson_settled filters]

theorem membersToJson_settled : (filter : List Criterion) →
    membersToJson (settled filter) = membersToJson filter
  | [] => rfl
  | criterion :: rest => by
      rw [settled, membersToJson, membersToJson, criterionToJson_settled criterion,
        membersToJson_settled rest]

theorem groupToJson_settled : (filters : List (List Criterion)) →
    groupToJson (settledGroup filters) = groupToJson filters
  | [] => rfl
  | filter :: rest => by
      rw [settledGroup, groupToJson, groupToJson, membersToJson_settled filter,
        groupToJson_settled rest]

end

theorem toJson_settled (filter : Filter) : toJson (settled filter) = toJson filter := by
  rw [toJson, toJson, membersToJson_settled]

mutual

theorem settledCriterion_eq_self : (criterion : Criterion) →
    (settledCriterion criterion = criterion ↔
      ∀ entry ∈ criterionConditions criterion, entry.2 ≠ .eq .null)
  | .column column condition => by
      rw [settledCriterion, criterionConditions, List.forall_mem_singleton,
        ← condition.settled_eq_self, Criterion.column.injEq, and_iff_right rfl]
  | .conjunction filters => by
      rw [settledCriterion, criterionConditions, ← settledGroup_eq_self filters,
        Criterion.conjunction.injEq]
  | .disjunction filters => by
      rw [settledCriterion, criterionConditions, ← settledGroup_eq_self filters,
        Criterion.disjunction.injEq]

/-- Only equality with null is not read as it was. -/
theorem settled_eq_self : (filter : List Criterion) →
    (settled filter = filter ↔ ∀ entry ∈ conditions filter, entry.2 ≠ .eq .null)
  | [] => iff_of_true rfl (List.forall_mem_nil _)
  | criterion :: rest => by
      rw [settled, conditions, List.forall_mem_append, ← settledCriterion_eq_self criterion,
        ← settled_eq_self rest, List.cons.injEq]

theorem settledGroup_eq_self : (filters : List (List Criterion)) →
    (settledGroup filters = filters ↔
      ∀ entry ∈ groupConditions filters, entry.2 ≠ .eq .null)
  | [] => iff_of_true rfl (List.forall_mem_nil _)
  | filter :: rest => by
      rw [settledGroup, groupConditions, List.forall_mem_append, ← settled_eq_self filter,
        ← settledGroup_eq_self rest, List.cons.injEq]

end

/-- The forms of the members of documents. -/
inductive MemberForm : String → Json → Criterion → Prop where
  | conjunction {items : List Json} {filters : List Filter} (nested : ofItems items = .ok filters) :
      MemberForm conjunctionKey (.array items) (.conjunction filters)
  | single {members : List (String × Json)} {filter : Filter}
      (nested : ofMembers members = .ok filter) :
      MemberForm conjunctionKey (.object members) (.conjunction [filter])
  | nothing : MemberForm conjunctionKey .null (.conjunction [])
  | disjunction {items : List Json} {filters : List Filter} (nested : ofItems items = .ok filters) :
      MemberForm disjunctionKey (.array items) (.disjunction filters)
  | column {key : String} {value : Json} {column : ColumnRef} {condition : Condition}
      (apart : key ≠ conjunctionKey ∧ key ≠ disjunctionKey)
      (named : ColumnRef.ofKey key = .ok column)
      (read : Condition.ofJson key value = .ok condition) :
      MemberForm key value (.column column condition)

/-- Only members of these forms are read. -/
theorem ofMember_eq_ok {key : String} {value : Json} {criterion : Criterion}
    (read : ofMember key value = .ok criterion) : MemberForm key value criterion := by
  unfold ofMember at read
  split at read
  · rename_i conjunction
    subst conjunction
    split at read
    · obtain ⟨filters, nested, rfl⟩ := Outcome.map_eq_ok read
      exact .conjunction nested
    · obtain ⟨filter, nested, rfl⟩ := Outcome.map_eq_ok read
      exact .single nested
    · obtain rfl := Except.ok.inj read
      exact .nothing
    · cases read
  · rename_i other
    split at read
    · rename_i disjunction
      subst disjunction
      split at read
      · obtain ⟨filters, nested, rfl⟩ := Outcome.map_eq_ok read
        exact .disjunction nested
      · cases read
    · rename_i another
      obtain ⟨column, named, continued⟩ := Outcome.bind_eq_ok read
      obtain ⟨condition, condensed, same⟩ := Outcome.bind_eq_ok continued
      obtain rfl := Except.ok.inj same
      exact .column ⟨other, another⟩ named condensed

/-- Conditions and levels of filters that documents hold as they are. -/
structure Held (entries : List (ColumnRef × Condition)) (levels : List Filter) : Prop where
  portable : ∀ entry ∈ entries, PortableEntry entry
  apart : ∀ level ∈ levels, Apart level

namespace Held

theorem nil : Held [] [] := ⟨List.forall_mem_nil _, List.forall_mem_nil _⟩

theorem append {entries others : List (ColumnRef × Condition)} {levels following : List Filter}
    (first : Held entries levels) (second : Held others following) :
    Held (entries ++ others) (levels ++ following) :=
  ⟨List.forall_mem_append.2 ⟨first.portable, second.portable⟩,
    List.forall_mem_append.2 ⟨first.apart, second.apart⟩⟩

/-- The filter of an object is a level of its own. -/
theorem level {members : List (String × Json)} {filter : Filter}
    (held : Held (conditions filter) (innerLevels filter))
    (keys : filter.map criterionKey = members.map Prod.fst)
    (apart : (members.map Prod.fst).Nodup) : Held (conditions filter) (levels filter) := by
  refine ⟨held.portable, List.forall_mem_cons.2 ⟨?_, held.apart⟩⟩
  rwa [Apart, keys]

/-- The criterion of a member whose key names a column. -/
theorem column {key : String} {value : Json} (proper : value.Proper)
    (apart : key ≠ conjunctionKey ∧ key ≠ disjunctionKey) {column : ColumnRef}
    (named : ColumnRef.ofKey key = .ok column) {condition : Condition}
    (read : Condition.ofJson key value = .ok condition) :
    criterionKey (.column column condition.settled) = key ∧
      Held [(column, condition.settled)] [] := by
  obtain ⟨spelt, portable⟩ := ColumnRef.key_of_ofKey named
  have different {name : String} (other : key ≠ name) : column ≠ .bare name := by
    rintro rfl
    exact other spelt.symm
  have entry : PortableEntry (column, condition.settled) :=
    ⟨portable, ⟨different apart.1, different apart.2⟩, Condition.portable_settled proper read⟩
  exact ⟨spelt, List.forall_mem_singleton.2 entry, List.forall_mem_nil _⟩

end Held

-- Along the document: each member is written under the key that it was read from, so that keys which
-- are apart in the document stay apart at every level of the filter.
mutual

theorem held_ofJson : (document : Json) → document.Proper → {filter : Filter} →
    ofJson document = .ok filter → Held (conditions (settled filter)) (levels (settled filter))
  | .object members, proper, filter, read => by
      cases proper with
      | object apart each =>
          obtain ⟨keys, held⟩ := held_ofMembers members each read
          exact held.level keys apart

/-- Each member becomes the criterion that is written under its key. -/
theorem held_ofMembers : (members : List (String × Json)) →
    (∀ member ∈ members, member.2.Proper) → {filter : Filter} → ofMembers members = .ok filter →
      (settled filter).map criterionKey = members.map Prod.fst ∧
        Held (conditions (settled filter)) (innerLevels (settled filter))
  | [], _, filter, read => by
      obtain rfl := Except.ok.inj read
      exact ⟨rfl, .nil⟩
  | (key, value) :: rest, each, filter, read => by
      obtain ⟨proper, others⟩ := List.forall_mem_cons.1 each
      obtain ⟨criterion, here, continued⟩ := Outcome.bind_eq_ok read
      obtain ⟨tail, there, same⟩ := Outcome.bind_eq_ok continued
      obtain rfl := Except.ok.inj same
      obtain ⟨first, held⟩ := held_ofMember key value proper here
      obtain ⟨keys, behind⟩ := held_ofMembers rest others there
      refine ⟨?_, held.append behind⟩
      rw [settled, List.map_cons, List.map_cons, first, keys]

theorem held_ofMember (key : String) : (value : Json) → value.Proper → {criterion : Criterion} →
    ofMember key value = .ok criterion →
      criterionKey (settledCriterion criterion) = key ∧
        Held (criterionConditions (settledCriterion criterion))
          (criterionLevels (settledCriterion criterion))
  | value, proper, criterion, read => by
      cases ofMember_eq_ok read with
      | conjunction nested =>
          cases proper with
          | array each => exact ⟨rfl, held_ofItems _ each nested⟩
      | single nested =>
          cases proper with
          | object apart each =>
              obtain ⟨keys, held⟩ := held_ofMembers _ each nested
              exact ⟨rfl, (held.level keys apart).append .nil⟩
      | nothing => exact ⟨rfl, .nil⟩
      | disjunction nested =>
          cases proper with
          | array each => exact ⟨rfl, held_ofItems _ each nested⟩
      | column apart named condensed => exact Held.column proper apart named condensed

theorem held_ofItems : (items : List Json) → (∀ item ∈ items, item.Proper) →
    {filters : List Filter} → ofItems items = .ok filters →
      Held (groupConditions (settledGroup filters)) (groupLevels (settledGroup filters))
  | [], _, filters, read => by
      obtain rfl := Except.ok.inj read
      exact .nil
  | item :: rest, each, filters, read => by
      obtain ⟨proper, others⟩ := List.forall_mem_cons.1 each
      obtain ⟨filter, here, continued⟩ := Outcome.bind_eq_ok read
      obtain ⟨tail, there, same⟩ := Outcome.bind_eq_ok continued
      obtain rfl := Except.ok.inj same
      exact (held_ofJson item proper here).append (held_ofItems rest others there)

end

/-- The filter of a proper document is read from its own document as it settles. -/
theorem ofJson_toJson_of_read {document : Json} (proper : document.Proper) {filter : Filter}
    (read : ofJson document = .ok filter) : ofJson (toJson filter) = .ok (settled filter) := by
  have held := held_ofJson document proper read
  obtain ⟨top, inner⟩ := List.forall_mem_cons.1 held.apart
  obtain ⟨members, each, -, same⟩ := reads_membersToJson (settled filter) held.portable
  obtain ⟨again, success, -, whole⟩ := ofJson_foldMembers each
  rw [map_fst_membersToJson] at whole
  rw [whole top, same inner] at success
  rwa [← toJson_settled]

end Filter

end EntityMapper
