import EntityMapper.Filter.Document
import EntityMapper.Proofs.Filter.Interchange
import EntityMapper.Proofs.Outcome
import EntityMapper.Proofs.Pairing
import EntityMapper.Proofs.Reference.Column
import EntityMapper.Proofs.Value.Document

set_option autoImplicit false

/-! Filters that are read back from their documents. An object holds each key once; what repeats a
key is read back as a conjunct, and the rest as it stands. -/

namespace EntityMapper

theorem Json.putMember_append_cons {key : String} (value old : Json)
    {before : List (String × Json)} (absent : ∀ member ∈ before, member.1 ≠ key)
    (after : List (String × Json)) :
    putMember key value (before ++ (key, old) :: after) = before ++ (key, value) :: after := by
  induction before with
  | nil => rw [List.nil_append, putMember_cons, if_pos rfl, List.nil_append]
  | cons member rest ih =>
      have others := List.forall_mem_cons.1 absent
      rw [List.cons_append, putMember_cons, if_neg others.1, ih others.2, List.cons_append]

namespace Condition

/-- Conditions with portable operands; equality with null is none, as null stands for the absence
of a value. -/
structure Portable (condition : Condition) : Prop where
  proper : condition ≠ .eq .null
  operands : ∀ value ∈ condition.operands, value.Portable

theorem findOperator?_singleton {operator : String} (listed : operator ∈ operatorKeys)
    (argument : Json) : findOperator? [(operator, argument)] = some (operator, argument) := by
  rw [findOperator?]
  generalize operatorKeys = keys at listed
  induction keys with
  | nil => exact absurd listed List.not_mem_nil
  | cons key rest ih =>
      by_cases here : key = operator
      · rw [List.findSome?_cons, here, List.lookup_cons_self]
        rfl
      · have later := (List.mem_cons.1 listed).resolve_left (Ne.symm here)
        have missing : [(operator, argument)].lookup key = none :=
          List.lookup_eq_none_iff.2 (by simpa using here)
        rw [List.findSome?_cons, missing]
        exact ih later

theorem ofJson_operatorObject {operator : String} (listed : operator ∈ operatorKeys) (key : String)
    (argument : Json) :
    ofJson key (operatorObject operator argument) = ofOperator key operator argument := by
  rw [operatorObject, ofJson, findOperator?_singleton listed]

/-- A value by itself stands for equality with it. -/
theorem ofJson_toJson_value (key : String) {value : Value} (portable : value.Portable)
    (proper : value ≠ .null) : ofJson key value.toJson = .ok (.eq value) := by
  have read := Value.ofJson_toJson portable
  cases portable with
  | null => exact absurd rfl proper
  | float finite =>
      rw [Value.toJson, if_pos finite] at read ⊢
      rw [ofJson, read]
      all_goals simp
  | _ =>
      rw [Value.toJson] at read ⊢
      rw [ofJson, read]
      all_goals simp

theorem bounds_boundsObject (operator key : String) {least greatest : Value}
    (portable : ∀ value ∈ [least, greatest], value.Portable) :
    bounds operator key (boundsObject least greatest) = .ok (least, greatest) := by
  have first := Value.ofJson_toJson (portable least (by simp))
  have second := Value.ofJson_toJson (portable greatest (by simp))
  have lookups : bounds operator key (boundsObject least greatest) =
      .ok (.ofJson least.toJson, .ofJson greatest.toJson) := rfl
  rw [lookups, first, second]

/-- A portable condition is read back from its document. -/
theorem ofJson_toJson {condition : Condition} (portable : condition.Portable) (key : String) :
    ofJson key condition.toJson = .ok condition := by
  obtain ⟨proper, operands⟩ := portable
  have single {value : Value} (member : value ∈ condition.operands) :=
    Value.ofJson_toJson (operands value member)
  cases condition with
  | isNull => rfl
  | eq value =>
      exact ofJson_toJson_value key (operands value List.mem_cons_self)
        fun null => proper (congrArg eq null)
  | between least greatest =>
      rw [toJson, ofJson_operatorObject (by decide), ofOperator, bounds_boundsObject _ _ operands]
      rfl
  | notBetween least greatest =>
      rw [toJson, ofJson_operatorObject (by decide), ofOperator, bounds_boundsObject _ _ operands]
      rfl
  | inList values =>
      have read : Value.ofItems (Value.itemsToJson values) = values :=
        Value.ofItems_itemsToJson operands
      rw [toJson, ofJson_operatorObject (by decide), ofOperator, items, read]
      rfl
  | notInList values =>
      have read : Value.ofItems (Value.itemsToJson values) = values :=
        Value.ofItems_itemsToJson operands
      rw [toJson, ofJson_operatorObject (by decide), ofOperator, items, read]
      rfl
  | notLike pattern =>
      rw [toJson, ofJson_operatorObject (by decide)]
      exact congrArg (fun read => Except.ok (notLike read)) (single List.mem_cons_self)
  | _ =>
      rw [toJson, ofJson_operatorObject (by decide), ofOperator, single List.mem_cons_self]

end Condition

namespace Filter

/-- Conditions on columns that a member of an object can stand for. -/
structure PortableEntry (entry : ColumnRef × Condition) : Prop where
  column : entry.1.Portable
  apart : entry.1 ≠ .bare conjunctionKey ∧ entry.1 ≠ .bare disjunctionKey
  condition : entry.2.Portable

/-- The key of the member that a criterion is written as. -/
def criterionKey : Criterion → String
  | .column column _ => column.key
  | .conjunction _ => conjunctionKey
  | .disjunction _ => disjunctionKey

mutual

/-- The filters within a criterion, at any depth. -/
def criterionLevels : Criterion → List Filter
  | .column _ _ => []
  | .conjunction filters => groupLevels filters
  | .disjunction filters => groupLevels filters

/-- The filters within the criteria of a filter, at any depth. -/
def innerLevels : List Criterion → List Filter
  | [] => []
  | criterion :: rest => criterionLevels criterion ++ innerLevels rest

def groupLevels : List (List Criterion) → List Filter
  | [] => []
  | filter :: rest => (filter :: innerLevels filter) ++ groupLevels rest

end

/-- A filter and the filters within it, at any depth. -/
def levels (filter : Filter) : List Filter := filter :: innerLevels filter

/-- No two criteria are written under one key. -/
def Apart (filter : Filter) : Prop := (filter.map criterionKey).Nodup

instance : DecidablePred Apart :=
  fun filter => inferInstanceAs (Decidable (filter.map criterionKey).Nodup)

/-- A member that is read as a criterion, from an array if it is a conjunction. -/
structure Reads (member : String × Json) (criterion : Criterion) : Prop where
  read : ofMember member.1 member.2 = .ok criterion
  array : member.1 = conjunctionKey → ∃ items, member.2 = .array items

theorem ofMembers_of_reads {members : List (String × Json)} {filter : Filter}
    (each : List.Forall₂ Reads members filter) : ofMembers members = .ok filter := by
  induction each with
  | nil => rfl
  | @cons member criterion members filter first others ih =>
      obtain ⟨key, value⟩ := member
      rw [ofMembers, first.read, ih]
      rfl

theorem reads_conjunction {items : List Json} {filters : List Filter}
    (nested : ofItems items = .ok filters) :
    Reads (conjunctionKey, .array items) (.conjunction filters) := by
  refine ⟨?_, fun _ => ⟨items, rfl⟩⟩
  rw [ofMember, if_pos rfl, nested]
  rfl

theorem Reads.conjunction {value : Json} {criterion : Criterion}
    (reads : Reads (conjunctionKey, value) criterion) :
    ∃ items filters, value = .array items ∧ ofItems items = .ok filters ∧
      criterion = .conjunction filters := by
  obtain ⟨items, rfl⟩ := reads.array rfl
  have read := reads.read
  rw [ofMember, if_pos rfl] at read
  obtain ⟨filters, nested, rfl⟩ := Outcome.map_eq_ok read
  exact ⟨items, filters, rfl, nested, rfl⟩

theorem reads_disjunction {items : List Json} {filters : List Filter}
    (nested : ofItems items = .ok filters) :
    Reads (disjunctionKey, .array items) (.disjunction filters) := by
  have apart : disjunctionKey ≠ conjunctionKey := by decide
  refine ⟨?_, fun same => absurd same apart⟩
  rw [ofMember, if_neg apart, if_pos rfl, nested]
  rfl

theorem reads_column {column : ColumnRef} {condition : Condition}
    (portable : PortableEntry (column, condition)) :
    Reads (column.key, condition.toJson) (.column column condition) := by
  have first : column.key ≠ conjunctionKey := ColumnRef.key_ne portable.apart.1 (by decide)
  have second : column.key ≠ disjunctionKey := ColumnRef.key_ne portable.apart.2 (by decide)
  refine ⟨?_, fun same => absurd same first⟩
  unfold ofMember
  rw [if_neg first, if_neg second, ColumnRef.ofKey_key portable.column,
    Condition.ofJson_toJson portable.condition]
  rfl

/-- Each criterion as a filter of its own. -/
def alone (criteria : List Criterion) : List Filter := criteria.map fun criterion => [criterion]

theorem agree_alone (criteria : List Criterion) :
    Agree [.conjunction (alone criteria)] criteria := by
  have agree := Agree.conjunction (alone criteria)
  rwa [alone, ← List.flatMap_def, List.flatMap_singleton'] at agree

/-- An item with one member that is read as a criterion. -/
def ReadsAlone (item : Json) (criterion : Criterion) : Prop := ofJson item = .ok [criterion]

theorem Reads.alone {member : String × Json} {criterion : Criterion}
    (reads : Reads member criterion) : ReadsAlone (.object [member]) criterion := by
  rw [ReadsAlone, ofJson]
  exact ofMembers_of_reads (.cons reads .nil)

theorem ofItems_append {first second : List Json} {filters others : List Filter}
    (reads : ofItems first = .ok filters) (following : ofItems second = .ok others) :
    ofItems (first ++ second) = .ok (filters ++ others) := by
  induction first generalizing filters with
  | nil =>
      obtain rfl := Except.ok.inj reads
      exact following
  | cons item rest ih =>
      rw [ofItems] at reads
      obtain ⟨filter, here, continued⟩ := Outcome.bind_eq_ok reads
      obtain ⟨tail, there, same⟩ := Outcome.bind_eq_ok continued
      obtain rfl := Except.ok.inj same
      rw [List.cons_append, ofItems, here, ih there]
      rfl

theorem ofItems_of_readsAlone {items : List Json} {criteria : List Criterion}
    (each : List.Forall₂ ReadsAlone items criteria) :
    ofItems items = .ok (alone criteria) := by
  induction each with
  | nil => rfl
  | cons first others ih =>
      rw [ofItems, first, ih]
      rfl

namespace Folded

/-- The members of an object so far are read as `kept`, those that repeat a key as `repeated`. -/
structure Reads (folded : Folded) (kept repeated : Filter) : Prop where
  members : List.Forall₂ Filter.Reads folded.members kept
  repeated : List.Forall₂ ReadsAlone folded.repeated repeated

theorem Reads.push {folded : Folded} {kept repeated : Filter} {member : String × Json}
    {criterion : Criterion} (reads : folded.Reads kept repeated)
    (read : Filter.Reads member criterion) :
    ∃ keeps repeats, (folded.push member).Reads keeps repeats ∧
      (kept ++ repeated ++ [criterion]).Perm (keeps ++ repeats) := by
  rw [Folded.push]
  split
  · refine ⟨kept, repeated ++ [criterion], ⟨reads.members, ?_⟩, ?_⟩
    · exact List.rel_append reads.repeated (.cons read.alone .nil)
    · rw [List.append_assoc]
  · refine ⟨kept ++ [criterion], repeated, ⟨?_, reads.repeated⟩, ?_⟩
    · exact List.rel_append reads.members (.cons read .nil)
    · rw [List.append_assoc, List.append_assoc]
      exact List.perm_append_comm.append_left _

/-- All members are read, in place or among the repeated ones. -/
theorem Reads.foldl {members : List (String × Json)} {filter : Filter}
    (each : List.Forall₂ Filter.Reads members filter) {folded : Folded} {kept repeated : Filter}
    (reads : folded.Reads kept repeated) :
    ∃ keeps repeats, (members.foldl Folded.push folded).Reads keeps repeats ∧
      (kept ++ repeated ++ filter).Perm (keeps ++ repeats) := by
  induction each generalizing folded kept repeated with
  | nil => exact ⟨kept, repeated, reads, by rw [List.append_nil]⟩
  | @cons member criterion members filter first others ih =>
      obtain ⟨between, held, step, moved⟩ := reads.push first
      obtain ⟨keeps, repeats, final, rest⟩ := ih step
      refine ⟨keeps, repeats, final, ?_⟩
      rw [← List.singleton_append, ← List.append_assoc]
      exact (moved.append_right filter).trans rest

/-- Without repeated keys the members stand as they are. -/
theorem foldl_of_nodup {members : List (String × Json)} {folded : Folded}
    (apart : ((folded.members ++ members).map Prod.fst).Nodup) :
    members.foldl Folded.push folded = ⟨folded.members ++ members, folded.repeated⟩ := by
  induction members generalizing folded with
  | nil => rw [List.foldl_nil, List.append_nil]
  | cons member rest ih =>
      have absent : ∀ held ∈ folded.members, held.1 ≠ member.1 := by
        rw [List.map_append, List.nodup_append] at apart
        intro held there
        exact apart.2.2 _ (List.mem_map_of_mem there) _ (List.mem_map_of_mem List.mem_cons_self)
      have missing : (folded.members.lookup member.1).isSome = false := by
        rw [List.lookup_eq_none_iff.2 fun held there => by simpa using (absent held there).symm]
        rfl
      have pushed : folded.push member = ⟨folded.members ++ [member], folded.repeated⟩ := by
        rw [Folded.push, missing, if_neg Bool.false_ne_true]
      rw [List.foldl_cons, pushed, ih]
      · rw [List.append_assoc, List.singleton_append]
      · rwa [List.append_assoc, List.singleton_append]

variable {folded : Folded} {kept repeated : Filter}

private theorem Reads.toJson_of_absent (reads : folded.Reads kept repeated)
    (absent : folded.members.lookup conjunctionKey = none) :
    ∃ read, ofJson (.object (Json.putMember conjunctionKey (.array folded.repeated)
      folded.members)) = .ok read ∧ Agree (kept ++ repeated) read := by
  have fresh : conjunctionKey ∉ folded.members.map Prod.fst := by
    rw [List.mem_map]
    rintro ⟨member, listed, same⟩
    have different := List.lookup_eq_none_iff.1 absent member listed
    simp [same] at different
  have last := reads_conjunction (ofItems_of_readsAlone reads.repeated)
  refine ⟨kept ++ [.conjunction (alone repeated)], ?_, ?_⟩
  · rw [Json.putMember_of_notMem _ _ _ fresh]
    exact ofMembers_of_reads (List.rel_append reads.members (.cons last .nil))
  · exact (Agree.refl kept).append (agree_alone repeated).symm

private theorem Reads.toJson_of_present (reads : folded.Reads kept repeated) {value : Json}
    (found : folded.members.lookup conjunctionKey = some value) :
    ∃ items, value = .array items ∧
      ∃ read, ofJson (.object (Json.putMember conjunctionKey (.array (items ++ folded.repeated))
        folded.members)) = .ok read ∧ Agree (kept ++ repeated) read := by
  obtain ⟨before, after, parts, fresh⟩ := List.lookup_eq_some_iff.1 found
  have members := reads.members
  rw [parts] at members ⊢
  obtain ⟨leading, rest, rfl, first, others⟩ := Pairing.exists_append members
  obtain ⟨criterion, following, here, behind, rfl⟩ := List.forall₂_cons_left_iff.1 others
  obtain ⟨items, filters, rfl, nested, rfl⟩ := here.conjunction
  have extended := reads_conjunction (ofItems_append nested (ofItems_of_readsAlone reads.repeated))
  refine ⟨items, rfl, leading ++ .conjunction (filters ++ alone repeated) :: following, ?_, ?_⟩
  · have others : ∀ member ∈ before, member.1 ≠ conjunctionKey :=
      fun member listed => (bne_iff_ne.1 (fresh member listed)).symm
    rw [Json.putMember_append_cons _ _ others]
    exact ofMembers_of_reads (List.rel_append first (.cons extended behind))
  · -- The repeated criteria move from the end into the conjunction, which is one of the criteria.
    have merged : Agree ([.conjunction filters] ++ repeated)
        [.conjunction (filters ++ alone repeated)] :=
      ((Agree.refl _).append (agree_alone repeated).symm).trans
        (Agree.conjunction_append filters (alone repeated)).symm
    have moved : (leading ++ .conjunction filters :: following ++ repeated).Perm
        (leading ++ ([.conjunction filters] ++ repeated ++ following)) := by
      rw [List.append_assoc, List.cons_append, List.singleton_append, List.cons_append]
      exact ((List.perm_append_comm).cons _).append_left _
    have around := (Agree.refl leading).append (merged.append (.refl following))
    exact (Agree.of_perm moved).trans around

/-- The object of all members is read as the criteria, the repeated ones in the conjunction. -/
theorem Reads.toJson (reads : folded.Reads kept repeated) :
    ∃ read, ofJson folded.toJson = .ok read ∧ Agree (kept ++ repeated) read := by
  rw [Folded.toJson]
  split
  · rename_i none
    rw [List.isEmpty_iff] at none
    have unrepeated := reads.repeated
    rw [none] at unrepeated
    cases unrepeated
    refine ⟨kept, ofMembers_of_reads reads.members, ?_⟩
    rw [List.append_nil]
    exact .refl kept
  · cases found : folded.members.lookup conjunctionKey with
    | none => exact reads.toJson_of_absent found
    | some value =>
        obtain ⟨items, rfl, read⟩ := reads.toJson_of_present found
        exact read

end Folded

theorem foldMembers_of_nodup {members : List (String × Json)}
    (apart : (members.map Prod.fst).Nodup) : foldMembers members = .object members := by
  have stand : members.foldl Folded.push ⟨[], []⟩ = ⟨members, []⟩ := Folded.foldl_of_nodup apart
  rw [foldMembers, stand]
  rfl

/-- The object of members with repeated keys is read as the criteria of all members. -/
theorem ofJson_foldMembers {members : List (String × Json)} {filter : Filter}
    (each : List.Forall₂ Reads members filter) :
    ∃ read, ofJson (foldMembers members) = .ok read ∧ Agree filter read ∧
      ((members.map Prod.fst).Nodup → read = filter) := by
  have empty : Folded.Reads ⟨[], []⟩ [] [] := ⟨.nil, .nil⟩
  obtain ⟨kept, repeated, folded, moved⟩ := Folded.Reads.foldl each empty
  obtain ⟨read, success, agree⟩ := folded.toJson
  refine ⟨read, success, (Agree.of_perm moved).trans agree, fun apart => ?_⟩
  rw [← foldMembers, foldMembers_of_nodup apart] at success
  exact Except.ok.inj (success.symm.trans (ofMembers_of_reads each))

theorem map_fst_membersToJson (filter : Filter) :
    (membersToJson filter).map Prod.fst = filter.map criterionKey := by
  induction filter with
  | nil => rfl
  | cons criterion rest ih =>
      rw [membersToJson, List.map_cons, List.map_cons, ih]
      cases criterion <;> rfl

mutual

theorem reads_criterionToJson : (criterion : Criterion) →
    (portable : ∀ entry ∈ criterionConditions criterion, PortableEntry entry) →
      ∃ read, Reads (criterionToJson criterion) read ∧ Agree [criterion] [read] ∧
        ((∀ level ∈ criterionLevels criterion, Apart level) → read = criterion)
  | .column column condition, portable =>
      ⟨.column column condition, reads_column (portable _ List.mem_cons_self), .refl _,
        fun _ => rfl⟩
  | .conjunction filters, portable => by
      obtain ⟨reads, success, agree, same⟩ := ofItems_groupToJson filters portable
      exact ⟨.conjunction reads, reads_conjunction success, Agree.conjunctions agree,
        fun apart => congrArg Criterion.conjunction (same apart)⟩
  | .disjunction filters, portable => by
      obtain ⟨reads, success, agree, same⟩ := ofItems_groupToJson filters portable
      exact ⟨.disjunction reads, reads_disjunction success, Agree.disjunctions agree,
        fun apart => congrArg Criterion.disjunction (same apart)⟩

/-- The members of a filter are read back, before repeated keys are taken together. -/
theorem reads_membersToJson : (filter : List Criterion) →
    (portable : ∀ entry ∈ conditions filter, PortableEntry entry) →
      ∃ read, List.Forall₂ Reads (membersToJson filter) read ∧ Agree filter read ∧
        ((∀ level ∈ innerLevels filter, Apart level) → read = filter)
  | [], _ => ⟨[], .nil, .refl [], fun _ => rfl⟩
  | criterion :: rest, portable => by
      rw [conditions, List.forall_mem_append] at portable
      obtain ⟨first, here, alike, same⟩ := reads_criterionToJson criterion portable.1
      obtain ⟨others, behind, agree, equal⟩ := reads_membersToJson rest portable.2
      refine ⟨first :: others, .cons here behind, alike.append agree, fun apart => ?_⟩
      rw [innerLevels, List.forall_mem_append] at apart
      rw [same apart.1, equal apart.2]

theorem ofItems_groupToJson : (filters : List (List Criterion)) →
    (portable : ∀ entry ∈ groupConditions filters, PortableEntry entry) →
      ∃ reads, ofItems (groupToJson filters) = .ok reads ∧ List.Forall₂ Agree filters reads ∧
        ((∀ level ∈ groupLevels filters, Apart level) → reads = filters)
  | [], _ => ⟨[], rfl, .nil, fun _ => rfl⟩
  | filter :: rest, portable => by
      rw [groupConditions, List.forall_mem_append] at portable
      obtain ⟨members, here, alike, same⟩ := reads_membersToJson filter portable.1
      obtain ⟨first, success, folded, whole⟩ := ofJson_foldMembers here
      obtain ⟨others, behind, agree, equal⟩ := ofItems_groupToJson rest portable.2
      refine ⟨first :: others, ?_, .cons (alike.trans folded) agree, fun apart => ?_⟩
      · rw [groupToJson, ofItems, success, behind]
        rfl
      · rw [groupLevels, List.forall_mem_append, List.forall_mem_cons] at apart
        rw [map_fst_membersToJson] at whole
        rw [whole apart.1.1, same apart.1.2, equal apart.2]

end

/-- A portable filter is read back from its document as one that can stand for it, and as the filter
itself if no level of it repeats a key. -/
theorem toJson_reads_back (filter : Filter)
    (portable : ∀ entry ∈ conditions filter, PortableEntry entry) :
    ∃ read, ofJson (toJson filter) = .ok read ∧ Interchangeable filter read ∧
      ((∀ level ∈ levels filter, Apart level) → read = filter) := by
  obtain ⟨members, each, alike, same⟩ := reads_membersToJson filter portable
  obtain ⟨read, success, folded, whole⟩ := ofJson_foldMembers each
  refine ⟨read, success, (alike.trans folded).interchangeable, fun apart => ?_⟩
  rw [levels, List.forall_mem_cons] at apart
  rw [map_fst_membersToJson] at whole
  rw [whole apart.1, same apart.2]

/-- A key that repeats beside a conjunction, and within it a level without repeated keys. -/
theorem toJson_reads_back_repeated :
    let inner : Filter :=
      [.column (.qualified "t" "c") (.inList [.null, .bool true]), .disjunction [[], []]]
    let filter : Filter :=
      [.column (.bare "age") (.gte (.int 18)), .conjunction [inner],
        .column (.bare "age") (.between (.int 1) (.text "z"))]
    (∀ entry ∈ conditions filter, PortableEntry entry) ∧
      (∃ read, ofJson (toJson filter) = .ok read ∧ Interchangeable filter read) ∧
      ofJson (toJson inner) = .ok inner := by
  intro inner filter
  have listed : PortableEntry (.qualified "t" "c", .inList [.null, .bool true]) := by
    refine ⟨by decide, by decide, nofun, ?_⟩
    exact List.forall_mem_cons.2 ⟨.null, List.forall_mem_singleton.2 (.bool true)⟩
  have least : PortableEntry (.bare "age", .gte (.int 18)) :=
    ⟨by decide, by decide, nofun, List.forall_mem_singleton.2 (.int 18)⟩
  have range : PortableEntry (.bare "age", .between (.int 1) (.text "z")) := by
    refine ⟨by decide, by decide, nofun, ?_⟩
    exact List.forall_mem_cons.2 ⟨.int 1, List.forall_mem_singleton.2 (.text "z")⟩
  have portable : ∀ entry ∈ conditions filter, PortableEntry entry := by
    intro entry member
    change entry ∈ [_, _, _] at member
    simp only [List.mem_cons, List.not_mem_nil, or_false] at member
    rcases member with rfl | rfl | rfl
    · exact least
    · exact listed
    · exact range
  obtain ⟨read, success, alike, -⟩ := toJson_reads_back filter portable
  obtain ⟨same, again, -, whole⟩ := toJson_reads_back inner (List.forall_mem_singleton.2 listed)
  have apart : ∀ level ∈ levels inner, Apart level := by decide
  rw [whole apart] at again
  exact ⟨portable, ⟨read, success, alike⟩, again⟩

end Filter

end EntityMapper
