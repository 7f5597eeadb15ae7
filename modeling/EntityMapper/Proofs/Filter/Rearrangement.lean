import EntityMapper.Proofs.Filter.Rereading

set_option autoImplicit false

/-! Filters that are read from documents of which the members stand in another order. Operators are
chosen by rank and bounds by name, so that only the order of the criteria can change. -/

namespace EntityMapper

/-- In an object that holds each key once, the place of a member does not matter. -/
theorem Json.lookup_perm {members others : List (String × Json)}
    (apart : (members.map Prod.fst).Nodup) (order : members.Perm others) (key : String) :
    members.lookup key = others.lookup key := by
  induction order with
  | nil => rfl
  | cons member order ih =>
      rw [List.lookup_cons, List.lookup_cons, ih (List.nodup_cons.1 apart).2]
  | swap first second rest =>
      have different : second.1 ≠ first.1 := fun same =>
        (List.nodup_cons.1 apart).1 (same ▸ List.mem_cons_self)
      rw [List.lookup_cons, List.lookup_cons, List.lookup_cons, List.lookup_cons]
      by_cases here : key = first.1
      · have apart : (key == second.1) = false := beq_false_of_ne (here ▸ different.symm)
        rw [apart]
      · rw [beq_false_of_ne here]
  | trans first second ihFirst ihSecond =>
      rw [ihFirst apart, ihSecond ((first.map Prod.fst).nodup_iff.1 apart)]

namespace Condition

/-- The operators whose argument holds bounds by name. -/
def rangeKeys : List String := ["$between", "$nbetween"]

/-- Arguments of an operator that are equal, or hold the same bounds in another order. -/
inductive SameArgument (operator : String) : Json → Json → Prop where
  | unchanged (argument : Json) : SameArgument operator argument argument
  | bounds {members others : List (String × Json)} (range : operator ∈ rangeKeys)
      (order : members.Perm others) : SameArgument operator (.object members) (.object others)

/-- Members with one key, which names an operator, and its argument. -/
def SameOperator (left right : String × Json) : Prop :=
  left.1 = right.1 ∧ SameArgument left.1 left.2 right.2

/-- Documents of a condition that are equal, or hold the same operators in another order. -/
inductive Rearranged : Json → Json → Prop where
  | unchanged (document : Json) : Rearranged document document
  | operators {members moved others : List (String × Json)} (order : members.Perm moved)
      (each : List.Forall₂ SameOperator moved others) :
      Rearranged (.object members) (.object others)

/-- Bounds are read by name. -/
theorem bounds_perm {members others : List (String × Json)}
    (apart : (members.map Prod.fst).Nodup) (order : members.Perm others) (operator key : String) :
    bounds operator key (.object members) = bounds operator key (.object others) := by
  rw [bounds, bounds, Json.lookup_perm apart order, Json.lookup_perm apart order]

theorem ofOperator_sameArgument {operator : String} {left right : Json} (proper : left.Proper)
    (same : SameArgument operator left right) (key : String) :
    ofOperator key operator left = ofOperator key operator right := by
  cases same with
  | unchanged argument => rfl
  | @bounds members others range order =>
      cases proper with
      | object apart each =>
          rcases List.mem_cons.1 range with rfl | range
          · rw [ofOperator, ofOperator, bounds_perm apart order]
          · obtain rfl := List.mem_singleton.1 range
            rw [ofOperator, ofOperator, bounds_perm apart order]

/-- Under each key both objects have arguments that are the same, or none. -/
theorem lookup_sameOperator {lefts rights : List (String × Json)}
    (each : List.Forall₂ SameOperator lefts rights) (operator : String) :
    Option.Rel (SameArgument operator) (lefts.lookup operator) (rights.lookup operator) := by
  induction each with
  | nil => exact .none
  | @cons left right lefts rights first others ih =>
      obtain ⟨key, argument⟩ := left
      obtain ⟨name, other⟩ := right
      obtain ⟨rfl, same⟩ := first
      by_cases here : operator = key
      · subst here
        rw [List.lookup_cons_self, List.lookup_cons_self]
        exact .some same
      · rw [List.lookup_cons, List.lookup_cons, beq_false_of_ne here]
        exact ih

/-- The same operator is found in both objects. -/
theorem findOperator?_sameOperator {lefts rights : List (String × Json)}
    (each : List.Forall₂ SameOperator lefts rights) :
    Option.Rel SameOperator (findOperator? lefts) (findOperator? rights) := by
  rw [findOperator?, findOperator?]
  induction operatorKeys with
  | nil => exact .none
  | cons operator rest ih =>
      have here := lookup_sameOperator each operator
      rw [List.findSome?_cons, List.findSome?_cons]
      generalize lefts.lookup operator = left at here ⊢
      generalize rights.lookup operator = right at here ⊢
      cases here with
      | none => exact ih
      | some same => exact .some ⟨rfl, same⟩

/-- The order of the operators of a condition does not matter, nor that of bounds. -/
theorem ofJson_rearranged {left right : Json} (proper : left.Proper)
    (same : Rearranged left right) (key : String) : ofJson key left = ofJson key right := by
  cases same with
  | unchanged document => rfl
  | @operators members moved others order each =>
      cases proper with
      | object apart proper =>
          have moves : findOperator? members = findOperator? moved := by
            simp only [findOperator?, Json.lookup_perm apart order]
          have found := findOperator?_sameOperator each
          rw [← moves] at found
          rw [ofJson, ofJson]
          generalize chosen : findOperator? members = left at found ⊢
          generalize findOperator? others = right at found ⊢
          cases found with
          | none => rfl
          | @some left right same =>
              obtain ⟨operator, argument⟩ := left
              obtain ⟨name, other⟩ := right
              obtain ⟨rfl, same⟩ := same
              have inside := Json.Proper.lookup proper (lookup_of_findOperator? chosen)
              exact ofOperator_sameArgument inside same key

end Condition

namespace Filter

mutual

/-- Documents of a filter that are equal, or hold members that are the same up to an order that is
admitted, at any depth. -/
inductive Rearranged (order : List (String × Json) → List (String × Json) → Prop) :
    Json → Json → Prop where
  | unchanged (document : Json) : Rearranged order document document
  | object {members moved others : List (String × Json)} (places : order members moved)
      (each : RearrangedMembers order moved others) :
      Rearranged order (.object members) (.object others)

inductive RearrangedMembers (order : List (String × Json) → List (String × Json) → Prop) :
    List (String × Json) → List (String × Json) → Prop where
  | nil : RearrangedMembers order [] []
  | cons {key : String} {left right : Json} {lefts rights : List (String × Json)}
      (first : RearrangedMember order key left right)
      (others : RearrangedMembers order lefts rights) :
      RearrangedMembers order ((key, left) :: lefts) ((key, right) :: rights)

/-- Values of a member that hold the same filters, or the same condition. -/
inductive RearrangedMember (order : List (String × Json) → List (String × Json) → Prop) :
    String → Json → Json → Prop where
  | filters {key : String} (group : key = conjunctionKey ∨ key = disjunctionKey)
      {lefts rights : List Json} (each : RearrangedItems order lefts rights) :
      RearrangedMember order key (.array lefts) (.array rights)
  | filter {key : String} (group : key = conjunctionKey ∨ key = disjunctionKey)
      {left right : Json} (same : Rearranged order left right) :
      RearrangedMember order key left right
  | condition {key : String} (column : key ≠ conjunctionKey ∧ key ≠ disjunctionKey)
      {left right : Json} (same : Condition.Rearranged left right) :
      RearrangedMember order key left right

inductive RearrangedItems (order : List (String × Json) → List (String × Json) → Prop) :
    List Json → List Json → Prop where
  | nil : RearrangedItems order [] []
  | cons {left right : Json} {lefts rights : List Json} (first : Rearranged order left right)
      (others : RearrangedItems order lefts rights) :
      RearrangedItems order (left :: lefts) (right :: rights)

end

mutual

/-- Filters whose criteria are the same up to an order that is admitted, at any depth. -/
inductive Reordered (order : Filter → Filter → Prop) : Filter → Filter → Prop where
  | intro {filter moved other : Filter} (places : order filter moved)
      (each : ReorderedCriteria order moved other) : Reordered order filter other

inductive ReorderedCriteria (order : Filter → Filter → Prop) : Filter → Filter → Prop where
  | nil : ReorderedCriteria order [] []
  | cons {left right : Criterion} {lefts rights : Filter}
      (first : ReorderedCriterion order left right)
      (others : ReorderedCriteria order lefts rights) :
      ReorderedCriteria order (left :: lefts) (right :: rights)

inductive ReorderedCriterion (order : Filter → Filter → Prop) : Criterion → Criterion → Prop where
  | column (column : ColumnRef) (condition : Condition) :
      ReorderedCriterion order (.column column condition) (.column column condition)
  | conjunction {lefts rights : List Filter} (each : ReorderedGroup order lefts rights) :
      ReorderedCriterion order (.conjunction lefts) (.conjunction rights)
  | disjunction {lefts rights : List Filter} (each : ReorderedGroup order lefts rights) :
      ReorderedCriterion order (.disjunction lefts) (.disjunction rights)

inductive ReorderedGroup (order : Filter → Filter → Prop) : List Filter → List Filter → Prop where
  | nil : ReorderedGroup order [] []
  | cons {left right : Filter} {lefts rights : List Filter} (first : Reordered order left right)
      (others : ReorderedGroup order lefts rights) :
      ReorderedGroup order (left :: lefts) (right :: rights)

end

mutual

theorem eq_of_reordered : {left right : Filter} → Reordered Eq left right → left = right
  | _, _, .intro places each => places.trans (eq_of_reorderedCriteria each)

theorem eq_of_reorderedCriteria : {left right : Filter} → ReorderedCriteria Eq left right →
    left = right
  | _, _, .nil => rfl
  | _, _, .cons first others => by
      rw [eq_of_reorderedCriterion first, eq_of_reorderedCriteria others]

theorem eq_of_reorderedCriterion : {left right : Criterion} → ReorderedCriterion Eq left right →
    left = right
  | _, _, .column column condition => rfl
  | _, _, .conjunction each => congrArg _ (eq_of_reorderedGroup each)
  | _, _, .disjunction each => congrArg _ (eq_of_reorderedGroup each)

theorem eq_of_reorderedGroup : {lefts rights : List Filter} → ReorderedGroup Eq lefts rights →
    lefts = rights
  | _, _, .nil => rfl
  | _, _, .cons first others => by rw [eq_of_reordered first, eq_of_reorderedGroup others]

end

mutual

/-- Filters of which only the order of criteria is different come to the same. -/
theorem agree_of_reordered : {left right : Filter} → Reordered List.Perm left right →
    Agree left right
  | _, _, .intro places each => (Agree.of_perm places).trans (agree_of_reorderedCriteria each)

theorem agree_of_reorderedCriteria : {left right : Filter} →
    ReorderedCriteria List.Perm left right → Agree left right
  | _, _, .nil => .refl []
  | _, _, .cons first others =>
      (agree_of_reorderedCriterion first).append (agree_of_reorderedCriteria others)

theorem agree_of_reorderedCriterion : {left right : Criterion} →
    ReorderedCriterion List.Perm left right → Agree [left] [right]
  | _, _, .column column condition => .refl _
  | _, _, .conjunction each => .conjunctions (agree_of_reorderedGroup each)
  | _, _, .disjunction each => .disjunctions (agree_of_reorderedGroup each)

theorem agree_of_reorderedGroup : {lefts rights : List Filter} →
    ReorderedGroup List.Perm lefts rights → List.Forall₂ Agree lefts rights
  | _, _, .nil => .nil
  | _, _, .cons first others => .cons (agree_of_reordered first) (agree_of_reorderedGroup others)

end

section Reflexivity

variable {order : Filter → Filter → Prop}

mutual

theorem reorderedCriteria_refl (keeps : ∀ filter, order filter filter) :
    (filter : List Criterion) → ReorderedCriteria order filter filter
  | [] => .nil
  | criterion :: rest =>
      .cons (reorderedCriterion_refl keeps criterion) (reorderedCriteria_refl keeps rest)

theorem reorderedCriterion_refl (keeps : ∀ filter, order filter filter) :
    (criterion : Criterion) → ReorderedCriterion order criterion criterion
  | .column column condition => .column column condition
  | .conjunction filters => .conjunction (reorderedGroup_refl keeps filters)
  | .disjunction filters => .disjunction (reorderedGroup_refl keeps filters)

theorem reorderedGroup_refl (keeps : ∀ filter, order filter filter) :
    (filters : List (List Criterion)) → ReorderedGroup order filters filters
  | [] => .nil
  | filter :: rest =>
      .cons (.intro (keeps filter) (reorderedCriteria_refl keeps filter))
        (reorderedGroup_refl keeps rest)

end

theorem reordered_refl (keeps : ∀ filter, order filter filter) (filter : Filter) :
    Reordered order filter filter :=
  .intro (keeps filter) (reorderedCriteria_refl keeps filter)

end Reflexivity

open Outcome (Matches)

/-- Members in another order are read as criteria in another order, if they can all be read. -/
theorem ofMembers_perm {members others : List (String × Json)} (order : members.Perm others) :
    Matches (fun _ _ => True) List.Perm (ofMembers members) (ofMembers others) := by
  induction order with
  | nil => exact .ok .nil
  | @cons member members others order ih =>
      obtain ⟨key, value⟩ := member
      rw [ofMembers, ofMembers]
      refine Matches.bind (.refl (fun _ => trivial) (fun _ => rfl) _) ?_
      rintro criterion _ rfl
      exact ih.bind fun left right moved => .ok (moved.cons criterion)
  | swap first second rest =>
      obtain ⟨key, value⟩ := first
      obtain ⟨name, argument⟩ := second
      simp only [ofMembers]
      -- Whichever of the two fails, both orders fail.
      cases ofMember key value with
      | error fault => cases ofMember name argument <;> exact .error trivial
      | ok left =>
          cases ofMember name argument with
          | error fault => exact .error trivial
          | ok right =>
              cases ofMembers rest with
              | error fault => exact .error trivial
              | ok filter => exact .ok (.swap left right filter)
  | trans first second ihFirst ihSecond =>
      refine (ihFirst.trans (fun _ _ _ _ _ => trivial) ihSecond).imp ?_
      rintro left right ⟨middle, before, after⟩
      exact before.trans after

/-- What has to hold of the order of members and of what is read of them: members that are moved
stay, and are read as criteria that are moved, or as faults that are related. -/
structure Admits (order : List (String × Json) → List (String × Json) → Prop)
    (faults : QueryFault → QueryFault → Prop) (moves : Filter → Filter → Prop) : Prop where
  members : ∀ {members moved}, order members moved → ∀ member ∈ moved, member ∈ members
  reads : ∀ {members moved}, order members moved →
    Matches faults moves (ofMembers members) (ofMembers moved)
  refl : ∀ fault, faults fault fault
  trans : ∀ left middle right, faults left middle → faults middle right → faults left right
  keeps : ∀ filter, moves filter filter

theorem admits_perm : Admits List.Perm (fun _ _ => True) List.Perm where
  members order _ := order.mem_iff.2
  reads := ofMembers_perm
  refl _ := trivial
  trans _ _ _ _ _ := trivial
  keeps := .refl

theorem admits_eq : Admits Eq Eq Eq where
  members same _ := by rw [same]; exact id
  reads same := by rw [same]; exact .refl (fun _ => rfl) (fun _ => rfl) _
  refl _ := rfl
  trans _ _ _ := Eq.trans
  keeps _ := rfl

section Reading

variable {order : List (String × Json) → List (String × Json) → Prop}
  {faults : QueryFault → QueryFault → Prop} {moves : Filter → Filter → Prop}

mutual

/-- Documents that are the same up to the order of their members are read as filters that are the
same up to the order of their criteria. -/
theorem ofJson_rearranged (admits : Admits order faults moves) :
    {left right : Json} → left.Proper → Rearranged order left right →
      Matches faults (Reordered moves) (ofJson left) (ofJson right)
  | _, _, _, .unchanged document => .refl admits.refl (reordered_refl admits.keeps) _
  | _, _, .object _ proper, .object places each => by
      have inside := fun member listed => proper member (admits.members places member listed)
      have read := ofMembers_rearranged admits inside each
      refine ((admits.reads places).trans admits.trans read).imp ?_
      rintro left right ⟨moved, step, same⟩
      exact .intro step same

theorem ofMembers_rearranged (admits : Admits order faults moves) :
    {lefts rights : List (String × Json)} → (∀ member ∈ lefts, member.2.Proper) →
      RearrangedMembers order lefts rights →
      Matches faults (ReorderedCriteria moves) (ofMembers lefts) (ofMembers rights)
  | _, _, _, .nil => .ok .nil
  | _, _, proper, .cons first others => by
      obtain ⟨here, following⟩ := List.forall_mem_cons.1 proper
      rw [ofMembers, ofMembers]
      refine (ofMember_rearranged admits here first).bind fun left right same => ?_
      exact (ofMembers_rearranged admits following others).bind
        fun lefts rights alike => .ok (.cons same alike)

theorem ofMember_rearranged (admits : Admits order faults moves) :
    {key : String} → {left right : Json} → left.Proper → RearrangedMember order key left right →
      Matches faults (ReorderedCriterion moves) (ofMember key left) (ofMember key right)
  | key, _, _, .array proper, .filters group each => by
      have items := ofItems_rearranged admits proper each
      unfold ofMember
      by_cases all : key = conjunctionKey
      · rw [if_pos all, if_pos all]
        exact items.map fun lefts rights => .conjunction
      · have any := group.resolve_left all
        rw [if_neg all, if_neg all, if_pos any, if_pos any]
        exact items.map fun lefts rights => .disjunction
  | key, _, _, proper, .filter group same => by
      have read := ofJson_rearranged admits proper same
      cases same with
      | unchanged => exact .refl admits.refl (reorderedCriterion_refl admits.keeps) _
      | object places each =>
          unfold ofMember
          by_cases all : key = conjunctionKey
          · rw [if_pos all, if_pos all]
            exact read.map fun left right alike => .conjunction (.cons alike .nil)
          · rw [if_neg all, if_neg all, if_pos (group.resolve_left all),
              if_pos (group.resolve_left all)]
            exact .error (admits.refl _)
  | _, _, _, proper, .condition column same => by
      unfold ofMember
      rw [if_neg column.1, if_neg column.2, if_neg column.1, if_neg column.2,
        Condition.ofJson_rearranged proper same]
      exact .refl admits.refl (reorderedCriterion_refl admits.keeps) _

theorem ofItems_rearranged (admits : Admits order faults moves) :
    {lefts rights : List Json} → (∀ item ∈ lefts, item.Proper) →
      RearrangedItems order lefts rights →
      Matches faults (ReorderedGroup moves) (ofItems lefts) (ofItems rights)
  | _, _, _, .nil => .ok .nil
  | _, _, proper, .cons first others => by
      obtain ⟨here, following⟩ := List.forall_mem_cons.1 proper
      rw [ofItems, ofItems]
      refine (ofJson_rearranged admits here first).bind fun left right same => ?_
      exact (ofItems_rearranged admits following others).bind
        fun lefts rights alike => .ok (.cons same alike)

end

end Reading

/-- Documents that are the same up to the order of their members are both read as filters, which
differ in the order of their criteria and can stand for each other, or neither is. If the members of
filters stand in one order, what is read is the same. -/
theorem rearranged_reads_alike {left right : Json} (proper : left.Proper)
    (same : Rearranged List.Perm left right) :
    ((∃ filter, ofJson left = .ok filter) ↔ ∃ other, ofJson right = .ok other) ∧
      (∀ filter other, ofJson left = .ok filter → ofJson right = .ok other →
        Reordered List.Perm filter other ∧ Interchangeable filter other) ∧
      (Rearranged Eq left right → ofJson left = ofJson right) := by
  have read := ofJson_rearranged admits_perm proper same
  refine ⟨read.exists_ok_iff, fun filter other first second => ?_, fun kept => ?_⟩
  · rw [first, second] at read
    exact ⟨read.of_ok, (agree_of_reordered read.of_ok).interchangeable⟩
  · exact ((ofJson_rearranged admits_eq proper kept).imp fun _ _ => eq_of_reordered).eq_of_eq

/-- A range and two alternatives around a name, and the same from the last member to the first,
within alternatives, operators and bounds too. Where only the operators change places, the
filter is the same. -/
theorem rearranged_reads_alike_range :
    let operators : List (String × Json) := [("$lt", .integer 9), ("$gt", .integer 2)]
    let range : List (String × Json) := [("$from", .integer 1), ("$to", .integer 5)]
    let branch : List (String × Json) := [("age", .object operators), ("id", .null)]
    let moved : List (String × Json) := [("id", .null), ("age", .object operators.reverse)]
    let members : List (String × Json) := [("name", .text "Ada"),
      ("$or", .array [.object branch, .object []]), ("id", .object [("$between", .object range)])]
    let others : List (String × Json) := [("id", .object [("$between", .object range.reverse)]),
      ("$or", .array [.object moved, .object []]), ("name", .text "Ada")]
    let name : Criterion := .column (.bare "name") (.eq (.text "Ada"))
    let between : Criterion := .column (.bare "id") (.between (.int 1) (.int 5))
    let above : Criterion := .column (.bare "age") (.gt (.int 2))
    let missing : Criterion := .column (.bare "id") .isNull
    let filter : Filter := [name, .disjunction [[above, missing], []], between]
    let other : Filter := [between, .disjunction [[missing, above], []], name]
    (Json.object members).Proper ∧ Rearranged List.Perm (.object members) (.object others) ∧
      ofJson (.object members) = .ok filter ∧ ofJson (.object others) = .ok other ∧
      Reordered List.Perm filter other ∧ Interchangeable filter other ∧
      ofJson (.object branch) =
        ofJson (.object [("age", .object operators.reverse), ("id", .null)]) := by
  intro operators range branch moved members others name between above missing filter other
  have small {value : Int} (least : -9 ≤ value) (greatest : value ≤ 9) :
      (Json.integer value).Proper := by
    refine .integer ?_ (by omega)
    rw [Integer.least64]
    omega
  have bounded : (Json.object range).Proper := by
    refine .object (by decide) (List.forall_mem_cons.2 ⟨small (by decide) (by decide), ?_⟩)
    exact List.forall_mem_singleton.2 (small (by decide) (by decide))
  have compared : (Json.object operators).Proper := by
    refine .object (by decide) (List.forall_mem_cons.2 ⟨small (by decide) (by decide), ?_⟩)
    exact List.forall_mem_singleton.2 (small (by decide) (by decide))
  have alternative : (Json.object branch).Proper := by
    exact .object (by decide) (List.forall_mem_cons.2 ⟨compared, List.forall_mem_singleton.2 .null⟩)
  have vacant : (Json.object []).Proper := .object List.nodup_nil (List.forall_mem_nil _)
  have proper : (Json.object members).Proper := by
    refine .object (by decide) (List.forall_mem_cons.2 ⟨.text _, List.forall_mem_cons.2 ⟨?_, ?_⟩⟩)
    · exact .array (List.forall_mem_cons.2 ⟨alternative, List.forall_mem_singleton.2 vacant⟩)
    · refine List.forall_mem_singleton.2 (.object (by decide) ?_)
      exact List.forall_mem_singleton.2 bounded
  have turned : Condition.Rearranged (.object operators) (.object operators.reverse) :=
    .operators (List.reverse_perm _).symm (List.forall₂_same.2 fun _ _ => ⟨rfl, .unchanged _⟩)
  have named : Condition.Rearranged (.object [("$between", .object range)])
      (.object [("$between", .object range.reverse)]) :=
    .operators (.refl _) (.cons ⟨rfl, .bounds (by decide) (List.reverse_perm _).symm⟩ .nil)
  have within : Rearranged List.Perm (.object branch) (.object moved) :=
    .object (.swap _ _ _) (.cons (.condition (by decide) (.unchanged _))
      (.cons (.condition (by decide) turned) .nil))
  have same : Rearranged List.Perm (.object members) (.object others) :=
    .object (List.reverse_perm _).symm (.cons (.condition (by decide) named)
      (.cons (.filters (.inr rfl) (.cons within (.cons (.unchanged _) .nil)))
        (.cons (.condition (by decide) (.unchanged _)) .nil)))
  have kept {order : List (String × Json) → List (String × Json) → Prop}
      (places : order branch branch) :
      Rearranged order (.object branch)
        (.object [("age", .object operators.reverse), ("id", .null)]) :=
    .object places (.cons (.condition (by decide) turned)
      (.cons (.condition (by decide) (.unchanged _)) .nil))
  have first : ofJson (.object members) = .ok filter := rfl
  have second : ofJson (.object others) = .ok other := rfl
  obtain ⟨reordered, alike⟩ := (rearranged_reads_alike proper same).2.1 filter other first second
  have identical := (rearranged_reads_alike alternative (kept (.refl _))).2.2 (kept rfl)
  exact ⟨proper, same, first, second, reordered, alike, identical⟩

end Filter

end EntityMapper
