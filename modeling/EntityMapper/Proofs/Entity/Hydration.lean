import EntityMapper.Proofs.Entity.Attachment
import EntityMapper.Proofs.Schema.Registry

set_option autoImplicit false

/-! Instances that are made of the rows of a table: they hold what their rows hold, and they are
equal where their rows are. -/

namespace EntityMapper

open Store

/-- Equal records hold equal values under each name. -/
theorem Record.exists_of_same {left right : Record} (same : left.same right = true) {key : String}
    {value : Value} (found : left.get? key = some value) :
    ∃ other, right.get? key = some other ∧ value.same other = true := by
  have entries : ∀ lefts rights : Entries Value, Record.sameEntries lefts rights = true →
      Entries.get? key lefts = some value →
        ∃ other, Entries.get? key rights = some other ∧ value.same other = true := by
    intro lefts
    induction lefts with
    | nil =>
        intro rights alike held
        cases held
    | cons first rest ih =>
        intro rights alike held
        cases rights with
        | nil => cases alike
        | cons second others =>
            simp only [Record.sameEntries, Bool.and_eq_true, beq_iff_eq] at alike
            rw [Entries.get?_cons] at held ⊢
            rw [← alike.1.1]
            by_cases here : key = first.1
            · rw [if_pos here] at held ⊢
              rw [← Option.some.inj held]
              exact ⟨second.2, rfl, alike.1.2⟩
            · rw [if_neg here] at held ⊢
              exact ih others alike.2 held
  exact entries left.entries right.entries same found

theorem Value.eq_of_same_int {key : Int64} {value : Value}
    (same : (Value.int key).same value = true) : value = .int key := by
  cases value with
  | int other => rw [eq_of_beq same]
  | _ => cases same

namespace Entity

section Fields

variable {schema : EntitySchema} {record : Record}

theorem get?_storedFields (distinct : schema.DistinctFields) {column : Column}
    (member : column ∈ schema.columns) :
    (storedFields .storage record schema.columns).get? column.field =
      some ((input? column .storage record).getD .null) := by
  rw [storedFields_eq]
  apply Keyed.get?_ofList_of_mem
  · rw [List.pairwise_map]
    exact distinct
  · exact List.mem_map_of_mem member

theorem get?_drawFields_of_absent {source : FieldSource} {columns : List Column} {field : String}
    (absent : ∀ column ∈ columns, column.field ≠ field) (fields : Record) (supply : Supply) :
    ((drawFields source record columns fields).run supply).1.get? field = fields.get? field := by
  induction columns generalizing fields supply with
  | nil => rfl
  | cons column rest ih =>
      have different := absent column List.mem_cons_self
      have others : ∀ other ∈ rest, other.field ≠ field := fun other member =>
        absent other (List.mem_cons_of_mem _ member)
      cases given : input? column source record with
      | some value =>
          rw [drawFields, given]
          change ((drawFields source record rest _).run supply).1.get? field = _
          rw [ih others, Keyed.get?_insert_of_ne _ _ (Ne.symm different)]
      | none =>
          rw [drawFields, given]
          change ((drawFields source record rest _).run _).1.get? field = _
          rw [ih others, Keyed.get?_insert_of_ne _ _ (Ne.symm different)]

theorem input?_of_get? {column : Column} {source : FieldSource} {record : Record} {value : Value}
    (held : record.get? (source.key column) = some value) (present : value.isNull = false) :
    input? column source record = some (column.type.coerce value) := by
  rw [input?, held, Option.filter_some, present]
  rfl

/-- What is drawn for a column is what the instance holds, whatever is made up on the way. -/
theorem get?_drawFields_of_drawn {source : FieldSource} {columns : List Column}
    (distinct : columns.Pairwise fun left right => left.field ≠ right.field) {column : Column}
    (member : column ∈ columns) {value : Value}
    (drawn : ∀ supply : Supply, ((match input? column source record with
      | some given => pure given
      | none => column.drawDefault : Draw Value).run supply).1 = value)
    (fields : Record) (supply : Supply) :
    ((drawFields source record columns fields).run supply).1.get? column.field = some value := by
  induction columns generalizing fields supply with
  | nil => exact absurd member List.not_mem_nil
  | cons first rest ih =>
      have others := List.pairwise_cons.1 distinct
      rcases List.mem_cons.1 member with rfl | later
      · have held := drawn supply
        have kept (value : Value) (later : Supply) :
            ((drawFields source record rest (fields.insert column.field value)).run later).1.get?
              column.field = some value := by
          rw [get?_drawFields_of_absent fun other there => Ne.symm (others.1 other there),
            Keyed.get?_insert_self]
        cases given : input? column source record with
        | some value =>
            rw [given] at held
            rw [drawFields, given, ← held]
            exact kept value supply
        | none =>
            rw [given] at held
            rw [drawFields, given, ← held]
            exact kept _ _
      · cases given : input? first source record with
        | some other =>
            rw [drawFields, given]
            exact ih others.2 later _ supply
        | none =>
            rw [drawFields, given]
            exact ih others.2 later _ _

/-- Values that are given are not replaced by defaults. -/
theorem get?_drawFields {source : FieldSource} {columns : List Column}
    (distinct : columns.Pairwise fun left right => left.field ≠ right.field) {column : Column}
    (member : column ∈ columns) {value : Value} (given : input? column source record = some value)
    (fields : Record) (supply : Supply) :
    ((drawFields source record columns fields).run supply).1.get? column.field = some value := by
  refine get?_drawFields_of_drawn distinct member (fun supply => ?_) fields supply
  rw [given]
  rfl

end Fields

/-- The instance was made of a record, whatever has been attached to it since. -/
def MadeOf (entity : Entity) (schema : EntitySchema) (record : Record) : Prop :=
  ∃ supply, entity.bare = ((hydrate schema record .storage).run supply).1

namespace MadeOf

variable {entity left right : Entity} {schema : EntitySchema} {record first second : Record}

theorem eq_mk (made : entity.MadeOf schema record) : ∃ supply, entity.bare =
    .mk schema ((drawFields .storage record schema.columns Keyed.empty).run supply).1
      (some (storedFields .storage record schema.columns)) [] .persisted := made

theorem schema_eq (made : entity.MadeOf schema record) : entity.schema = schema := by
  obtain ⟨supply, same⟩ := made.eq_mk
  cases entity
  exact congrArg Entity.schema same

theorem state (made : entity.MadeOf schema record) : entity.state = .persisted := by
  obtain ⟨supply, same⟩ := made.eq_mk
  cases entity
  exact congrArg Entity.state same

theorem stored (made : entity.MadeOf schema record) :
    entity.stored = some (storedFields .storage record schema.columns) := by
  obtain ⟨supply, same⟩ := made.eq_mk
  cases entity
  exact congrArg Entity.stored same

theorem fields (made : entity.MadeOf schema record) : ∃ supply, entity.fields =
    ((drawFields .storage record schema.columns Keyed.empty).run supply).1 := by
  obtain ⟨supply, same⟩ := made.eq_mk
  cases entity
  exact ⟨supply, congrArg Entity.fields same⟩

theorem withRelations (made : entity.MadeOf schema record) (relations : List (String × Related)) :
    (entity.withRelations relations).MadeOf schema record := by
  obtain ⟨supply, same⟩ := made
  exact ⟨supply, by rw [bare_withRelations, same]⟩

end MadeOf

end Entity

section Sound

variable {store : Store} {registry : Registry} {name : String} {schema : EntitySchema}
  {record first second : Record} {entity left right : Entity}

/-- What is stored in the form of its column is read as it is. -/
theorem Store.Sound.input?_getD (sound : store.Sound registry)
    (found : registry.get? name = some schema) (member : record ∈ store.rows schema.table)
    {column : Column} (listed : column ∈ schema.columns) :
    (Entity.input? column .storage record).getD .null = record.value column.storage := by
  have coerced := sound.coerced name schema found record member column listed
  unfold Entity.input? Record.value at *
  change (((record.get? column.storage).filter fun value => !value.isNull).map
    column.type.coerce).getD .null = _
  cases given : record.get? column.storage with
  | none => rfl
  | some value =>
      rw [given, Option.getD_some] at coerced
      by_cases null : value.isNull = true
      · rw [(Value.isNull_iff value).1 null]
        rfl
      · rw [Bool.not_eq_true] at null
        rw [Option.filter_some, null]
        exact coerced

/-- An instance that was made of a row holds what the row holds. -/
theorem Entity.MadeOf.isOf (made : entity.MadeOf schema record) (sound : store.Sound registry)
    (regular : registry.Regular) (found : registry.get? name = some schema)
    (member : record ∈ store.rows schema.table) : entity.IsOf schema record := by
  have distinct := (regular name schema found).2
  refine ⟨made.schema_eq, made.state, ⟨_, made.stored, ?_⟩, ?_⟩
  · intro column listed
    rw [get?_storedFields distinct listed, sound.input?_getD found member listed]
  · intro column listed present
    have read := sound.input?_getD found member listed
    cases given : input? column .storage record with
    | none =>
        rw [given] at read
        exact absurd read.symm present
    | some value =>
        rw [given, Option.getD_some] at read
        obtain ⟨supply, fields⟩ := made.fields
        rw [Entity.get?, fields, get?_drawFields distinct listed given, read]

theorem Store.Sound.eq_of_key (sound : store.Sound registry)
    (found : registry.get? name = some schema) (left : first ∈ store.rows schema.table)
    (right : second ∈ store.rows schema.table)
    (same : first.value schema.primaryKey.storage = second.value schema.primaryKey.storage) :
    first = second := by
  have symmetric : Std.Symm fun left right : Record =>
      left.value schema.primaryKey.storage ≠ right.value schema.primaryKey.storage :=
    ⟨fun _ _ => Ne.symm⟩
  by_cases equal : first = second
  · exact equal
  · exact absurd same ((sound.unique name schema found).forall left right equal)

/-- Instances of one table are equal where their rows are. -/
theorem Entity.MadeOf.isSame_iff (sound : store.Sound registry) (free : store.NanFree registry)
    (regular : registry.Regular) (found : registry.get? name = some schema)
    (madeLeft : left.MadeOf schema first) (madeRight : right.MadeOf schema second)
    (memberLeft : first ∈ store.rows schema.table)
    (memberRight : second ∈ store.rows schema.table) :
    left.isSame right = true ↔ first = second := by
  have distinct := (regular name schema found).2
  rw [isSame_of_stored madeLeft.stored madeRight.stored, typeName, typeName, madeLeft.schema_eq,
    madeRight.schema_eq]
  simp only [decide_true, Bool.true_and]
  constructor
  · intro same
    have listed := schema.primaryKey_mem
    obtain ⟨key, held⟩ := sound.keyed name schema found first memberLeft
    have stored : (storedFields .storage first schema.columns).get? schema.primaryKey.field =
        some ((input? schema.primaryKey .storage first).getD .null) :=
      get?_storedFields distinct listed
    rw [sound.input?_getD found memberLeft listed, held] at stored
    obtain ⟨other, there, alike⟩ := Record.exists_of_same same stored
    rw [get?_storedFields distinct listed, sound.input?_getD found memberRight listed] at there
    apply sound.eq_of_key found memberLeft memberRight
    rw [held, Option.some.inj there, Value.eq_of_same_int alike]
  · rintro rfl
    exact Record.same_self
      (nanFree_storedFields .storage _ (free name schema found _ memberLeft))

end Sound

end EntityMapper
