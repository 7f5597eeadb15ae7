import EntityMapper.Proofs.Entity.Attachment

set_option autoImplicit false

/-! Ways down from an instance through what is attached to it. Attaching one instance to another
adds the ways of the one below the other, and no way leads to the same instance twice in one
collection. -/

namespace EntityMapper

/-- The names of the associations on a way, each with the instance to which it leads. -/
abbrev Way := List (String × Entity)

/-- The instances that are attached. -/
def Related.members : Related → List Entity
  | .one entity => [entity]
  | .many entities => entities

/-- No two instances of a collection match each other. -/
def Related.Apart : Related → Prop
  | .one _ => True
  | .many entities => entities.Pairwise fun left right =>
      left.isSame right = false ∧ right.isSame left = false

namespace Entity

/-- A way leads from an instance to another one. -/
inductive Reaches : Entity → Way → Entity → Prop where
  | here (entity : Entity) : Reaches entity [] entity
  | through {owner next last : Entity} {name : String} {related : Related} {way : Way}
      (attached : (name, related) ∈ owner.relations) (member : next ∈ related.members)
      (further : Reaches next way last) : Reaches owner ((name, next) :: way) last

/-- No collection of the instance holds two instances that match each other. -/
def Apart (entity : Entity) : Prop :=
  ∀ name related, (name, related) ∈ entity.relations → related.Apart

/-- Every way down from the instance is one of those allowed, through instances that were read, in
whose collections nothing is doubled. -/
def Tidy (along : Way → Prop) (entity : Entity) : Prop :=
  ∀ way last, entity.Reaches way last → along way ∧ last.Read ∧ last.Apart

end Entity

/-- What is attached under a name is tidy if the ways that begin with it are allowed. -/
def Related.Tidy (along : Way → Prop) (name : String) (related : Related) : Prop :=
  related.Apart ∧ ∀ next ∈ related.members, next.Tidy fun way => along ((name, next) :: way)

/-- Whether a way is allowed depends on no more than which instances match those on it. -/
def Congruent (along : Way → Prop) : Prop :=
  ∀ (before : Way) (name : String) (left right : Entity) (after : Way), left.Read → right.Read →
    left.isSame right = true → along (before ++ (name, left) :: after) →
      along (before ++ (name, right) :: after)

variable {along other : Way → Prop} {entity child left right : Entity} {name : String}
  {related : Related}

theorem Congruent.tail (congruent : Congruent along) (name : String) (next : Entity) :
    Congruent fun way => along ((name, next) :: way) :=
  fun before => congruent ((name, next) :: before)

namespace Entity

theorem tidy_iff : entity.Tidy along ↔ along [] ∧ entity.Read ∧
    ∀ name related, (name, related) ∈ entity.relations → related.Tidy along name := by
  constructor
  · intro tidy
    obtain ⟨start, read, apart⟩ := tidy [] entity (.here entity)
    exact ⟨start, read, fun name related attached => ⟨apart name related attached,
      fun next member way last reached => tidy _ last (.through attached member reached)⟩⟩
  · rintro ⟨start, read, below⟩ way last reached
    cases reached with
    | here => exact ⟨start, read, fun name related attached => (below name related attached).1⟩
    | through attached member further => exact (below _ _ attached).2 _ member _ last further

theorem Tidy.read (tidy : entity.Tidy along) : entity.Read := (tidy_iff.1 tidy).2.1

theorem Tidy.attached (tidy : entity.Tidy along)
    (attached : (name, related) ∈ entity.relations) : related.Tidy along name :=
  (tidy_iff.1 tidy).2.2 name related attached

theorem Tidy.imp (allowed : ∀ way, along way → other way) (tidy : entity.Tidy along) :
    entity.Tidy other := by
  intro way last reached
  obtain ⟨along, read, apart⟩ := tidy way last reached
  exact ⟨allowed way along, read, apart⟩

/-- An instance without anything attached. -/
theorem tidy_of_bare (start : along []) (read : entity.Read) (bare : entity.relations = []) :
    entity.Tidy along := by
  refine tidy_iff.2 ⟨start, read, fun name related attached => ?_⟩
  rw [bare] at attached
  exact absurd attached List.not_mem_nil

theorem stored_put (name : String) (related : Related) (entity : Entity) :
    (entity.put name related).stored = entity.stored := by
  cases entity; rfl

theorem Tidy.put (tidy : entity.Tidy along) (further : related.Tidy along name) :
    (entity.put name related).Tidy along := by
  obtain ⟨start, read, below⟩ := tidy_iff.1 tidy
  refine tidy_iff.2 ⟨start, ?_, fun key held attached => ?_⟩
  · rw [Read, stored_put]
    exact read
  · rw [Entity.put, relations_withRelations] at attached
    rcases Entries.mem_insert_of_mem attached with new | old
    · obtain ⟨rfl, rfl⟩ := Prod.mk.inj new
      exact further
    · exact below key held old

theorem Tidy.initMany (tidy : entity.Tidy along) (name : String) :
    (entity.initMany name).Tidy along := by
  rw [Entity.initMany]
  split
  · exact tidy
  · exact tidy.put ⟨List.Pairwise.nil, fun next member => absurd member List.not_mem_nil⟩

/-- The instance may be taken over by one that matches it. -/
def Merges (along : Way → Prop) (name : String) (child : Entity) : Prop :=
  ∀ existing : Entity, existing.isSame child = true →
    (existing.Tidy fun way => along ((name, existing) :: way)) →
      (existing.merge child).Tidy fun way => along ((name, existing.merge child) :: way)

theorem Tidy.single {before : Option Related} (merges : Merges along name child)
    (tidy : child.Tidy fun way => along ((name, child) :: way))
    (attached : ∀ related, before = some related → related.Tidy along name) :
    (single before child).Tidy fun way => along ((name, single before child) :: way) := by
  cases before with
  | none => exact tidy
  | some related =>
      cases related with
      | many items => exact tidy
      | one existing =>
          rw [Entity.single]
          split
          · rename_i same
            exact merges existing same ((attached _ rfl).2 existing (List.mem_singleton_self _))
          · exact tidy

theorem bare_of_mem_withItem {items : List Entity} (member : entity ∈ withItem items child) :
    entity = child ∨ ∃ item ∈ items, entity.bare = item.bare := by
  induction items with
  | nil => exact Or.inl (List.mem_singleton.1 member)
  | cons existing rest ih =>
      rw [withItem, updateFirst] at member
      split at member
      · rcases List.mem_cons.1 member with rfl | later
        · exact Or.inr ⟨existing, List.mem_cons_self, bare_mergeRelations _ _⟩
        · exact Or.inr ⟨entity, List.mem_cons_of_mem _ later, rfl⟩
      · rcases List.mem_cons.1 member with rfl | later
        · exact Or.inr ⟨entity, List.mem_cons_self, rfl⟩
        · rcases ih later with new | ⟨item, there, bare⟩
          · exact Or.inl new
          · exact Or.inr ⟨item, List.mem_cons_of_mem _ there, bare⟩

/-- A collection is joined by an instance that matches none of it, or it has as many as before. -/
theorem Tidy.withItem {items : List Entity} (merges : Merges along name child)
    (tidy : child.Tidy fun way => along ((name, child) :: way))
    (others : Related.Tidy along name (.many items)) :
    Related.Tidy along name (.many (withItem items child)) := by
  induction items with
  | nil => exact ⟨List.pairwise_singleton _ _, List.forall_mem_singleton.2 tidy⟩
  | cons existing rest ih =>
      obtain ⟨apart, below⟩ := others
      obtain ⟨alone, apartRest⟩ := List.pairwise_cons.1 apart
      have here := below existing List.mem_cons_self
      have belowRest : ∀ next ∈ rest, next.Tidy fun way => along ((name, next) :: way) :=
        fun next member => below next (List.mem_cons_of_mem _ member)
      rw [Entity.withItem, updateFirst]
      split
      · rename_i same
        refine ⟨List.pairwise_cons.2 ⟨?_, apartRest⟩,
          List.forall_mem_cons.2 ⟨merges existing same here, belowRest⟩⟩
        intro next member
        have bare : (existing.merge child).bare = existing.bare := bare_mergeRelations _ _
        rw [isSame_congr bare rfl, isSame_congr rfl bare]
        exact alone next member
      · rename_i different
        rw [Bool.not_eq_true] at different
        obtain ⟨apartOthers, belowOthers⟩ := ih ⟨apartRest, belowRest⟩
        refine ⟨List.pairwise_cons.2 ⟨?_, apartOthers⟩,
          List.forall_mem_cons.2 ⟨here, belowOthers⟩⟩
        intro next member
        rcases bare_of_mem_withItem member with rfl | ⟨item, there, bare⟩
        · exact ⟨different, (tidy.read.isSame_comm here.read).trans different⟩
        · rw [isSame_congr rfl bare, isSame_congr bare rfl]
          exact alone item there

theorem Tidy.of_related? (tidy : entity.Tidy along) (related : Related)
    (found : entity.related? name = some related) : related.Tidy along name :=
  tidy.attached (Entries.mem_of_get? found)

theorem Tidy.collection (tidy : entity.Tidy along) (name : String) :
    Related.Tidy along name (.many (collection (entity.related? name))) := by
  cases found : entity.related? name with
  | none => exact ⟨List.Pairwise.nil, fun next member => absurd member List.not_mem_nil⟩
  | some related =>
      cases related with
      | one existing => exact ⟨List.Pairwise.nil, fun next member => absurd member List.not_mem_nil⟩
      | many items => exact tidy.of_related? _ found

/-- An instance that matches another one takes over what is attached to it. -/
theorem Tidy.merges (congruent : Congruent along)
    (tidy : child.Tidy fun way => along ((name, child) :: way))
    (merged : ∀ existing : Entity, (existing.Tidy fun way => along ((name, existing) :: way)) →
      (∀ key related, (key, related) ∈ child.relations →
        related.Tidy (fun way => along ((name, existing) :: way)) key) →
      (existing.merge child).Tidy fun way => along ((name, existing) :: way)) :
    Merges along name child := by
  intro existing same before
  have back : child.isSame existing = true := (tidy.read.isSame_comm before.read).trans same
  have further : ∀ key related, (key, related) ∈ child.relations →
      related.Tidy (fun way => along ((name, existing) :: way)) key := by
    intro key related attached
    obtain ⟨apart, below⟩ := tidy.attached attached
    exact ⟨apart, fun next member => (below next member).imp fun way =>
      congruent [] name child existing ((key, next) :: way) tidy.read before.read back⟩
  have after := merged existing before further
  have bare : (existing.merge child).bare = existing.bare := bare_mergeRelations _ _
  have equal : existing.isSame (existing.merge child) = true :=
    (isSame_congr rfl bare).trans before.read.isSame_self
  exact after.imp fun way =>
    congruent [] name existing (existing.merge child) way before.read after.read equal

mutual

/-- Whatever is attached, one relation after the other, if its ways are allowed. -/
theorem tidy_mergeRelations {along : Way → Prop} (congruent : Congruent along) {entity : Entity}
    (tidy : entity.Tidy along) : (relations : List (String × Related)) →
    (∀ name related, (name, related) ∈ relations → related.Tidy along name) →
      (mergeRelations entity relations).Tidy along
  | [], _ => tidy
  | (name, related) :: rest, further => by
      rw [mergeRelations]
      exact tidy_mergeRelations congruent
        (tidy_attach congruent tidy name related (further name related List.mem_cons_self)) rest
        fun other held member => further other held (List.mem_cons_of_mem _ member)
termination_by structural relations => relations

theorem tidy_attach {along : Way → Prop} (congruent : Congruent along) {entity : Entity}
    (tidy : entity.Tidy along) (name : String) : (related : Related) →
    related.Tidy along name → (attach entity name related).Tidy along
  | .one child, further => by
      rw [attach]
      exact tidy_attachOne congruent tidy name child (further.2 child (List.mem_singleton_self _))
  | .many children, further => by
      rw [attach]
      exact tidy_attachAll congruent (tidy.initMany name) name children further.2
termination_by structural related => related

theorem tidy_attachAll {along : Way → Prop} (congruent : Congruent along) {entity : Entity}
    (tidy : entity.Tidy along) (name : String) : (children : List Entity) →
    (∀ child ∈ children, child.Tidy fun way => along ((name, child) :: way)) →
      (attachAll entity name children).Tidy along
  | [], _ => tidy
  | child :: rest, further => by
      rw [attachAll]
      exact tidy_attachAll congruent
        (tidy_attachMany congruent tidy name child (further child List.mem_cons_self)) name rest
        fun other member => further other (List.mem_cons_of_mem _ member)
termination_by structural children => children

theorem tidy_attachOne {along : Way → Prop} (congruent : Congruent along) {entity : Entity}
    (tidy : entity.Tidy along) (name : String) : (child : Entity) →
    (child.Tidy fun way => along ((name, child) :: way)) → (attachOne entity name child).Tidy along
  | .mk schema fields stored relations state, further => by
      rw [attachOne_eq]
      have merges : Merges along name (.mk schema fields stored relations state) :=
        further.merges congruent fun existing before others =>
          tidy_mergeRelations (congruent.tail name existing) before relations others
      exact tidy.put
        ⟨trivial, List.forall_mem_singleton.2 (further.single merges tidy.of_related?)⟩
termination_by structural child => child

theorem tidy_attachMany {along : Way → Prop} (congruent : Congruent along) {entity : Entity}
    (tidy : entity.Tidy along) (name : String) : (child : Entity) →
    (child.Tidy fun way => along ((name, child) :: way)) → (attachMany entity name child).Tidy along
  | .mk schema fields stored relations state, further => by
      rw [attachMany_eq]
      have merges : Merges along name (.mk schema fields stored relations state) :=
        further.merges congruent fun existing before others =>
          tidy_mergeRelations (congruent.tail name existing) before relations others
      exact tidy.put (further.withItem merges (tidy.collection name))
termination_by structural child => child

end

end Entity

end EntityMapper
