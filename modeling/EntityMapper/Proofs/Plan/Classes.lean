import EntityMapper.Proofs.Entity.Equality
import EntityMapper.Proofs.Plan.Gathering
import Mathlib.Data.List.Induction

set_option autoImplicit false

/-! Rows in classes: those that agree at a level, with the instance on which they agree. Rows that
are added later go to the class that there is for them, or they start one. -/

namespace EntityMapper.Slices

/-- Every instance of the row is as it was read from storage. -/
structure Clean (row : Slices) : Prop where
  read : ∀ (index : Nat) (entity : Entity), row.at? index = some entity → entity.Read
  bare : ∀ (index : Nat) (entity : Entity), row.at? index = some entity → entity.relations = []

theorem has_iff {index : Nat} {entity : Entity} {row : Slices} :
    row.has index entity = true ↔
      ∃ other, row.at? index = some other ∧ entity.isSame other = true := by
  unfold has
  cases found : row.at? index with
  | none => exact ⟨nofun, fun ⟨_, absent, _⟩ => nomatch absent⟩
  | some other => exact ⟨fun same => ⟨other, rfl, same⟩, fun ⟨_, rfl, same⟩ => same⟩

/-- Rows with the instance on which they agree. -/
abbrev RowClass := Entity × List Slices

/-- The classes of rows, in the order in which they start. -/
def classes (index : Nat) (rows : List Slices) : List RowClass :=
  (distinct (present index rows)).map fun entity => (entity, agreeing index entity rows)

/-- Adds the rows of one class to others. -/
def addClass : List RowClass → RowClass → List RowClass
  | [], added => [added]
  | first :: rest, added =>
      if first.1.isSame added.1 then (first.1, first.2 ++ added.2) :: rest
      else first :: addClass rest added

/-- Adds one row to classes, if it is present. -/
def addRow (index : Nat) (before : List RowClass) (row : Slices) : List RowClass :=
  match row.at? index with
  | some entity => addClass before (entity, [row])
  | none => before

/-- All classes have an instance that was read from storage. -/
def AreRead (classes : List RowClass) : Prop := ∀ each ∈ classes, each.1.Read

section Equality

variable {left middle right : Entity}

theorem isSame_congr_right (first : left.Read) (second : middle.Read) (third : right.Read)
    (same : middle.isSame right = true) : left.isSame middle = left.isSame right := by
  rw [Bool.eq_iff_iff]
  constructor
  · intro before
    exact first.isSame_trans second third before same
  · intro before
    rw [second.isSame_comm third] at same
    exact first.isSame_trans third second before same

theorem isSame_congr_left (first : left.Read) (second : middle.Read) (third : right.Read)
    (same : left.isSame middle = true) : left.isSame right = middle.isSame right := by
  rw [first.isSame_comm third, second.isSame_comm third]
  exact isSame_congr_right third first second same

end Equality

theorem areRead_addClass {before : List RowClass} {added : RowClass} (read : AreRead before)
    (other : added.1.Read) : AreRead (addClass before added) := by
  induction before with
  | nil => exact List.forall_mem_singleton.2 other
  | cons first rest ih =>
      have here := read first List.mem_cons_self
      have others : AreRead rest := fun each member => read each (List.mem_cons_of_mem _ member)
      rw [addClass]
      split
      · exact List.forall_mem_cons.2 ⟨here, others⟩
      · exact List.forall_mem_cons.2 ⟨here, ih others⟩

/-- Rows of one class may be added in two parts. -/
theorem addClass_addClass {before : List RowClass} {first second : RowClass} (read : AreRead before)
    (readFirst : first.1.Read) (readSecond : second.1.Read)
    (same : first.1.isSame second.1 = true) :
    addClass (addClass before first) second =
      addClass before (first.1, first.2 ++ second.2) := by
  induction before with
  | nil => rw [addClass, addClass, addClass, if_pos same]
  | cons head rest ih =>
      have here := read head List.mem_cons_self
      have others := ih fun each member => read each (List.mem_cons_of_mem _ member)
      have alike := isSame_congr_right here readFirst readSecond same
      rw [addClass, addClass]
      by_cases found : head.1.isSame first.1 = true
      · rw [if_pos found, if_pos found, addClass, if_pos (alike ▸ found), List.append_assoc]
      · rw [if_neg found, if_neg found, addClass, if_neg (alike ▸ found), others]

/-- Rows of a class that is there are added before or after those of another one. -/
theorem addClass_comm {before : List RowClass} {first second : RowClass} (read : AreRead before)
    (readFirst : first.1.Read) (readSecond : second.1.Read)
    (there : ∃ each ∈ before, each.1.isSame second.1 = true)
    (different : first.1.isSame second.1 = false) :
    addClass (addClass before first) second = addClass (addClass before second) first := by
  induction before with
  | nil =>
      obtain ⟨each, member, -⟩ := there
      exact absurd member List.not_mem_nil
  | cons head rest ih =>
      have here := read head List.mem_cons_self
      have others : AreRead rest := fun each member => read each (List.mem_cons_of_mem _ member)
      rw [addClass, addClass]
      by_cases isFirst : head.1.isSame first.1 = true
      · have notSecond : ¬ head.1.isSame second.1 = true := by
          rw [isSame_congr_left here readFirst readSecond isFirst, different]
          exact Bool.false_ne_true
        rw [if_pos isFirst, if_neg notSecond, addClass, if_neg notSecond, addClass, if_pos isFirst]
      · by_cases isSecond : head.1.isSame second.1 = true
        · rw [if_neg isFirst, if_pos isSecond, addClass, if_pos isSecond, addClass, if_neg isFirst]
        · have further : ∃ each ∈ rest, each.1.isSame second.1 = true := by
            obtain ⟨each, member, same⟩ := there
            rcases List.mem_cons.1 member with rfl | later
            · exact absurd same isSecond
            · exact ⟨each, later, same⟩
          rw [if_neg isFirst, if_neg isSecond, addClass, if_neg isSecond, addClass, if_neg isFirst,
            ih others further]

/-- The instances of the classes stay. -/
theorem exists_mem_addClass {before : List RowClass} (added : RowClass) {each : RowClass}
    (member : each ∈ before) : ∃ other ∈ addClass before added, other.1 = each.1 := by
  induction before with
  | nil => exact absurd member List.not_mem_nil
  | cons head rest ih =>
      rw [addClass]
      rcases List.mem_cons.1 member with rfl | later
      · split
        · exact ⟨_, List.mem_cons_self, rfl⟩
        · exact ⟨_, List.mem_cons_self, rfl⟩
      · split
        · exact ⟨each, List.mem_cons_of_mem _ later, rfl⟩
        · obtain ⟨other, found, same⟩ := ih later
          exact ⟨other, List.mem_cons_of_mem _ found, same⟩

theorem exists_same_addClass (before : List RowClass) {added : RowClass} (read : added.1.Read) :
    ∃ each ∈ addClass before added, each.1.isSame added.1 = true := by
  induction before with
  | nil => exact ⟨added, List.mem_cons_self, read.isSame_self⟩
  | cons head rest ih =>
      rw [addClass]
      split
      · rename_i same
        exact ⟨_, List.mem_cons_self, same⟩
      · obtain ⟨each, found, same⟩ := ih
        exact ⟨each, List.mem_cons_of_mem _ found, same⟩

/-- No two of the classes could be one. -/
def Apart (classes : List RowClass) : Prop :=
  classes.Pairwise fun left right => left.1.isSame right.1 = false

private theorem addClass_foldl_comm {before added : List RowClass} {last : RowClass}
    (read : AreRead before) (readAdded : AreRead added) (readLast : last.1.Read)
    (there : ∃ each ∈ before, each.1.isSame last.1 = true)
    (different : ∀ each ∈ added, each.1.isSame last.1 = false) :
    addClass (added.foldl addClass before) last = added.foldl addClass (addClass before last) := by
  induction added generalizing before with
  | nil => rfl
  | cons first rest ih =>
      have readFirst := readAdded first List.mem_cons_self
      have kept : ∃ each ∈ addClass before first, each.1.isSame last.1 = true := by
        obtain ⟨each, member, same⟩ := there
        obtain ⟨other, found, equal⟩ := exists_mem_addClass first member
        exact ⟨other, found, equal ▸ same⟩
      have swapped := addClass_comm read readFirst readLast there
        (different first List.mem_cons_self)
      rw [List.foldl_cons, List.foldl_cons, ← swapped]
      exact ih (areRead_addClass read readFirst)
        (fun each member => readAdded each (List.mem_cons_of_mem _ member)) kept
        fun each member => different each (List.mem_cons_of_mem _ member)

/-- Classes that are added to others may get a further one before or after. -/
theorem addClass_foldl {before added : List RowClass} {last : RowClass} (read : AreRead before)
    (readAdded : AreRead added) (readLast : last.1.Read) (apart : Apart added) :
    addClass (added.foldl addClass before) last =
      (addClass added last).foldl addClass before := by
  induction added generalizing before with
  | nil => rfl
  | cons first rest ih =>
      have readFirst := readAdded first List.mem_cons_self
      have readRest : AreRead rest := fun each member =>
        readAdded each (List.mem_cons_of_mem _ member)
      have apartRest := List.pairwise_cons.1 apart
      rw [addClass, List.foldl_cons]
      by_cases same : first.1.isSame last.1 = true
      · -- The further class goes past all others to the one that it belongs to.
        have readBoth := areRead_addClass read readFirst
        have there : ∃ each ∈ addClass before first, each.1.isSame last.1 = true := by
          obtain ⟨each, found, alike⟩ := exists_same_addClass before readFirst
          exact ⟨each, found, (readBoth each found).isSame_trans readFirst readLast alike same⟩
        have different : ∀ each ∈ rest, each.1.isSame last.1 = false := by
          intro each member
          have readEach := readRest each member
          rw [← isSame_congr_right readEach readFirst readLast same,
            readEach.isSame_comm readFirst]
          exact apartRest.1 each member
        rw [if_pos same, List.foldl_cons,
          addClass_foldl_comm readBoth readRest readLast there different,
          addClass_addClass read readFirst readLast same]
      · rw [if_neg same, List.foldl_cons]
        exact ih (areRead_addClass read readFirst) readRest apartRest.2

theorem mem_of_mem_distinct {entity : Entity} {entities : List Entity}
    (member : entity ∈ distinct entities) : entity ∈ entities := by
  induction entities with
  | nil => exact member
  | cons first rest ih =>
      rw [distinct] at member
      rcases List.mem_cons.1 member with rfl | later
      · exact List.mem_cons_self
      · exact List.mem_cons_of_mem _ (ih (List.mem_filter.1 later).1)

/-- No two of distinct instances are the same. -/
theorem pairwise_distinct (entities : List Entity) :
    (distinct entities).Pairwise fun left right => left.isSame right = false := by
  induction entities with
  | nil => exact List.Pairwise.nil
  | cons first rest ih =>
      rw [distinct]
      refine List.pairwise_cons.2 ⟨?_, ih.filter _⟩
      intro other member
      simpa using (List.mem_filter.1 member).2

theorem exists_mem_distinct {entities : List Entity} (read : ∀ each ∈ entities, each.Read)
    {entity : Entity} (member : entity ∈ entities) :
    ∃ each ∈ distinct entities, each.isSame entity = true := by
  induction entities with
  | nil => exact absurd member List.not_mem_nil
  | cons first rest ih =>
      have readFirst := read first List.mem_cons_self
      rw [distinct]
      rcases List.mem_cons.1 member with rfl | later
      · exact ⟨entity, List.mem_cons_self, readFirst.isSame_self⟩
      · obtain ⟨each, found, same⟩ :=
          ih (fun other there => read other (List.mem_cons_of_mem _ there)) later
        by_cases alike : first.isSame each = true
        · have readEach := read each (List.mem_cons_of_mem _ (mem_of_mem_distinct found))
          exact ⟨first, List.mem_cons_self,
            readFirst.isSame_trans readEach (read entity member) alike same⟩
        · exact ⟨each, List.mem_cons_of_mem _ (List.mem_filter.2 ⟨found, by simpa using alike⟩),
            same⟩

/-- An instance more is distinct from the others, or there is the same one among them. -/
theorem distinct_append_singleton {entities : List Entity} {last : Entity}
    (read : ∀ each ∈ entities, each.Read) (readLast : last.Read) :
    distinct (entities ++ [last]) =
      if (distinct entities).any (·.isSame last) then distinct entities
      else distinct entities ++ [last] := by
  induction entities with
  | nil => rfl
  | cons first rest ih =>
      have readFirst := read first List.mem_cons_self
      have readRest : ∀ each ∈ rest, each.Read := fun each member =>
        read each (List.mem_cons_of_mem _ member)
      rw [List.cons_append, distinct, ih readRest, distinct, List.any_cons]
      by_cases same : first.isSame last = true
      · -- The last one is left out, by those before it or by the first one.
        rw [same, Bool.true_or, if_pos rfl]
        split
        · rfl
        · simp [same]
      · rw [Bool.eq_false_iff.2 same, Bool.false_or]
        have others : ((distinct rest).filter fun other => !first.isSame other).any
            (·.isSame last) = (distinct rest).any (·.isSame last) := by
          rw [Bool.eq_iff_iff, List.any_eq_true, List.any_eq_true]
          constructor
          · rintro ⟨each, member, alike⟩
            exact ⟨each, (List.mem_filter.1 member).1, alike⟩
          · rintro ⟨each, member, alike⟩
            have readEach := readRest each (mem_of_mem_distinct member)
            refine ⟨each, List.mem_filter.2 ⟨member, ?_⟩, alike⟩
            rw [isSame_congr_right readFirst readEach readLast alike]
            simpa using same
        rw [others]
        split
        · rfl
        · simp [same]

theorem present_append (index : Nat) (first second : List Slices) :
    present index (first ++ second) = present index first ++ present index second :=
  List.filterMap_append

theorem agreeing_append (index : Nat) (entity : Entity) (first second : List Slices) :
    agreeing index entity (first ++ second) =
      agreeing index entity first ++ agreeing index entity second :=
  List.filter_append _ _

theorem read_of_mem_present {index : Nat} {rows : List Slices} (clean : ∀ row ∈ rows, row.Clean)
    {entity : Entity} (member : entity ∈ present index rows) : entity.Read := by
  obtain ⟨row, there, found⟩ := List.mem_filterMap.1 member
  exact (clean row there).read index entity found

theorem areRead_classes {index : Nat} {rows : List Slices} (clean : ∀ row ∈ rows, row.Clean) :
    AreRead (classes index rows) := by
  intro each member
  obtain ⟨entity, found, rfl⟩ := List.mem_map.1 member
  exact read_of_mem_present clean (mem_of_mem_distinct found)

theorem apart_classes (index : Nat) (rows : List Slices) : Apart (classes index rows) :=
  List.pairwise_map.2 (pairwise_distinct _)

private theorem addClass_map {entities : List Entity} (rowsOf : Entity → List Slices)
    (apart : entities.Pairwise fun left right => left.isSame right = false)
    (read : ∀ each ∈ entities, each.Read) {last : Entity} (readLast : last.Read)
    (added : List Slices) :
    addClass (entities.map fun entity => (entity, rowsOf entity)) (last, added) =
      (entities.map fun entity =>
        (entity, rowsOf entity ++ if entity.isSame last then added else [])) ++
      if entities.any (·.isSame last) then [] else [(last, added)] := by
  induction entities with
  | nil => rfl
  | cons first rest ih =>
      have readFirst := read first List.mem_cons_self
      have readRest : ∀ each ∈ rest, each.Read := fun each member =>
        read each (List.mem_cons_of_mem _ member)
      have apartRest := List.pairwise_cons.1 apart
      rw [List.map_cons, addClass, List.any_cons, List.map_cons]
      by_cases same : first.isSame last = true
      · have others : ∀ each ∈ rest, each.isSame last = false := by
          intro each member
          have readEach := readRest each member
          rw [← isSame_congr_right readEach readFirst readLast same,
            readEach.isSame_comm readFirst]
          exact apartRest.1 each member
        have unchanged : (rest.map fun entity =>
            (entity, rowsOf entity ++ if entity.isSame last then added else [])) =
            rest.map fun entity => (entity, rowsOf entity) := by
          apply List.map_congr_left
          intro each member
          rw [others each member, if_neg Bool.false_ne_true, List.append_nil]
        rw [if_pos same, unchanged, same, Bool.true_or, if_pos rfl, if_pos rfl, List.append_nil]
      · rw [if_neg same, ih apartRest.2 readRest, Bool.eq_false_iff.2 same,
          Bool.false_or, if_neg Bool.false_ne_true, List.append_nil, List.cons_append]

theorem classes_append_singleton {index : Nat} {rows : List Slices} {row : Slices}
    (clean : ∀ each ∈ rows, each.Clean) (cleanRow : row.Clean) :
    classes index (rows ++ [row]) = addRow index (classes index rows) row := by
  have read : ∀ each ∈ present index rows, each.Read := fun each => read_of_mem_present clean
  cases found : row.at? index with
  | none =>
      have nothing : present index [row] = [] := by simp [present, found]
      rw [classes, classes, addRow, found, present_append, nothing, List.append_nil]
      apply List.map_congr_left
      intro entity _
      have out : agreeing index entity [row] = [] := by simp [agreeing, has, found]
      rw [agreeing_append, out, List.append_nil]
  | some last =>
      have readLast := cleanRow.read index last found
      have one : present index [row] = [last] := by simp [present, found]
      have within (entity : Entity) : agreeing index entity [row] =
          if entity.isSame last then [row] else [] := by
        simp [agreeing, has, found, List.filter_cons]
      rw [addRow, found, classes, classes, present_append, one,
        distinct_append_singleton read readLast]
      simp only [agreeing_append, within]
      rw [addClass_map _ (pairwise_distinct _) (fun each member =>
        read each (mem_of_mem_distinct member)) readLast]
      split
      · rw [List.append_nil]
      · rename_i new
        have fresh : agreeing index last rows = [] := by
          apply List.filter_eq_nil_iff.2
          intro each member has
          obtain ⟨other, there, same⟩ := has_iff.1 has
          have listed : other ∈ present index rows := List.mem_filterMap.2 ⟨each, member, there⟩
          obtain ⟨kept, held, alike⟩ := exists_mem_distinct read listed
          have readOther := read other listed
          rw [readLast.isSame_comm readOther] at same
          have found := (read kept (mem_of_mem_distinct held)).isSame_trans readOther readLast
            alike same
          exact new (List.any_eq_true.2 ⟨kept, held, found⟩)
        rw [List.map_append, List.map_singleton, fresh, readLast.isSame_self, if_pos rfl,
          List.nil_append]

/-- The classes of rows, one after the other, are the classes of all of them. -/
theorem classes_append {index : Nat} {first second : List Slices}
    (cleanFirst : ∀ row ∈ first, row.Clean) (cleanSecond : ∀ row ∈ second, row.Clean) :
    classes index (first ++ second) =
      (classes index second).foldl addClass (classes index first) := by
  induction second using List.reverseRecOn with
  | nil => rw [List.append_nil, classes, present]; rfl
  | append_singleton rows row ih =>
      have cleanRows : ∀ each ∈ rows, each.Clean := fun each member =>
        cleanSecond each (List.mem_append_left _ member)
      have cleanRow := cleanSecond row (List.mem_append_right _ List.mem_cons_self)
      have cleanBoth : ∀ each ∈ first ++ rows, each.Clean := List.forall_mem_append.2
        ⟨cleanFirst, cleanRows⟩
      rw [← List.append_assoc, classes_append_singleton cleanBoth cleanRow, ih cleanRows,
        classes_append_singleton cleanRows cleanRow]
      unfold addRow
      cases found : row.at? index with
      | none => rfl
      | some entity =>
          exact addClass_foldl (areRead_classes cleanFirst) (areRead_classes cleanRows)
            (cleanRow.read index entity found) (apart_classes index rows)

theorem present_of_absent {index : Nat} {rows : List Slices}
    (absent : ∀ row ∈ rows, row.at? index = none) : present index rows = [] :=
  List.filterMap_eq_nil_iff.2 absent

/-- Rows that all agree are one class. -/
theorem classes_of_agreeing {index : Nat} {first : Slices} {rest : List Slices} {entity : Entity}
    (found : first.at? index = some entity) (read : entity.Read)
    (agree : ∀ row ∈ rest, row.has index entity = true) :
    classes index (first :: rest) = [(entity, first :: rest)] := by
  have here : first.has index entity = true := has_iff.2 ⟨entity, found, read.isSame_self⟩
  have whole : agreeing index entity (first :: rest) = first :: rest :=
    List.filter_eq_self.2 (List.forall_mem_cons.2 ⟨here, agree⟩)
  have alone : (distinct (present index rest)).filter (fun other => !entity.isSame other) = [] := by
    apply List.filter_eq_nil_iff.2
    intro other member
    obtain ⟨row, there, shown⟩ := List.mem_filterMap.1 (mem_of_mem_distinct member)
    obtain ⟨_, equal, same⟩ := has_iff.1 (agree row there)
    cases shown.symm.trans equal
    simpa using same
  have listed : present index (first :: rest) = entity :: present index rest := by
    simp [present, found]
  rw [classes, listed, distinct, alone, List.map_singleton, whole]

end EntityMapper.Slices
