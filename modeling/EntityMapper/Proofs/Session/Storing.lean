import EntityMapper.Proofs.Entity.Hydration
import EntityMapper.Proofs.Validation.Coercion
import EntityMapper.Session.Instance

set_option autoImplicit false

/-! What is inserted of a new instance, and what is read of it. Given values have the form that
their columns hold; a default is stored as it is, and takes that form when it is read. -/

namespace EntityMapper

namespace DataType

theorem coerceInteger_coerceInteger (value : Value) :
    coerceInteger (coerceInteger value) = coerceInteger value := by
  cases value with
  | text spelling => cases read : Integer.read64 spelling <;> simp [coerceInteger, read]
  | _ => rfl

theorem coerceDecimal_coerceDecimal (value : Value) :
    coerceDecimal (coerceDecimal value) = coerceDecimal value := by
  cases value with
  | text spelling => cases read : Decimal.read spelling <;> simp [coerceDecimal, read]
  | float number => cases exact : Decimal.ofFloat? number <;> simp [coerceDecimal, exact]
  | _ => rfl

theorem coerceDate_coerceDate (value : Value) :
    coerceDate (coerceDate value) = coerceDate value := by
  cases value with
  | text spelling => cases read : DateTime.read? spelling <;> simp [coerceDate, read]
  | _ => rfl

theorem coerceDateTime_coerceDateTime (value : Value) :
    coerceDateTime (coerceDateTime value) = coerceDateTime value := by
  cases value with
  | text spelling => cases read : DateTime.read? spelling <;> simp [coerceDateTime, read]
  | _ => rfl

theorem coerceBoolean_coerceBoolean (value : Value) :
    coerceBoolean (coerceBoolean value) = coerceBoolean value := by
  cases value with
  | text spelling =>
      rw [coerceBoolean]
      split
      · rfl
      · split
        · rfl
        · simp only [coerceBoolean, *, if_false]
  | _ => rfl

/-- What has the form that columns of a type hold keeps it. -/
theorem coerce_coerce (type : DataType) (value : Value) :
    type.coerce (type.coerce value) = type.coerce value := by
  cases type with
  | varchar | text | longText => rfl
  | tinyInt | smallInt | mediumInt | int | bigInt => exact coerceInteger_coerceInteger value
  | decimal => exact coerceDecimal_coerceDecimal value
  | date => exact coerceDate_coerceDate value
  | dateTime => exact coerceDateTime_coerceDateTime value
  | boolean => exact coerceBoolean_coerceBoolean value

/-- Whether columns of the type hold a value that they admit as it is, and not as one of another
kind. -/
def holds (type : DataType) : Value → Bool
  | .int _ => type ≠ .boolean && type ≠ .decimal
  | .float value => type ≠ .decimal || (Decimal.ofFloat? value).isNone
  | .text _ => type ≠ .date && type ≠ .dateTime
  | .date _ => type ≠ .dateTime
  | .dateTime _ => type ≠ .date
  | _ => true

/-- A value that is admitted has the form that the column holds iff it is of a kind that is held. -/
theorem coerce_eq_self_iff {type : DataType} {value : Value} (admitted : type.admits value = true) :
    type.coerce value = value ↔ type.holds value = true := by
  cases type with
  | varchar | text | longText => cases value <;> simp_all [coerce, holds, admits, Value.text?]
  | tinyInt | smallInt | mediumInt | int | bigInt =>
      cases value <;> simp_all [coerce, coerceInteger, holds, admits]
  | decimal =>
      cases value with
      | float number =>
          cases exact : Decimal.ofFloat? number <;> simp [coerce, coerceDecimal, holds, exact]
      | _ => simp_all [coerce, coerceDecimal, holds, admits, Value.float?]
  | date =>
      cases value with
      | text spelling =>
          obtain ⟨moment, read⟩ := Option.isSome_iff_exists.1 admitted
          simp [coerce, coerceDate, holds, read]
      | _ => simp_all [coerce, coerceDate, holds, admits]
  | dateTime =>
      cases value with
      | text spelling =>
          obtain ⟨moment, read⟩ := Option.isSome_iff_exists.1 admitted
          simp [coerce, coerceDateTime, holds, read]
      | _ => simp_all [coerce, coerceDateTime, holds, admits]
  | boolean => cases value <;> simp_all [coerce, coerceBoolean, holds, admits]
end DataType

namespace Column

/-- A value that is checked and not null is admitted by the type. -/
theorem admits_of_check {column : Column} {value : Value} {mode : WriteMode}
    (present : value.isNull = false) (passed : column.check (some value) mode = none) :
    column.type.admits value = true :=
  ((column.check_eq_none_iff present mode).1 passed).1

end Column

namespace Entity

variable {schema : EntitySchema}

/-- The values of all columns of an instance, by the names under which they are stored. -/
def bindings (entity : Entity) : List (String × Value) :=
  entity.schema.columns.map fun column => (column.storage, entity.value column.field)

/-- If no column is null, all columns are inserted. -/
theorem insertedValues_eq_bindings {entity : Entity}
    (present : ∀ column ∈ entity.schema.columns, (entity.value column.field).isNull = false) :
    Database.insertedValues entity = entity.bindings := by
  have all : entity.schema.columns.filter (fun column =>
      !column.primaryKey || !(entity.value column.field).isNull) = entity.schema.columns := by
    refine List.filter_eq_self.2 fun column member => ?_
    rw [present column member, Bool.not_false, Bool.or_true]
  rw [Database.insertedValues, all, bindings]

theorem get?_eq_some_value {entity : Entity} {field : String}
    (present : (entity.value field).isNull = false) :
    entity.get? field = some (entity.value field) := by
  unfold value at present ⊢
  cases held : entity.get? field with
  | none =>
      rw [held] at present
      cases present
  | some value => rfl

/-- A value that is given has the form that its column holds. -/
theorem coerce_of_input? {column : Column} {source : FieldSource} {record : Record} {value : Value}
    (given : input? column source record = some value) : column.type.coerce value = value := by
  obtain ⟨raw, -, rfl⟩ := Option.map_eq_some_iff.1 given
  exact column.type.coerce_coerce raw

/-- The values of the columns determine what is drawn for them. -/
theorem drawFields_eq_iff {columns : List Column} (source other : FieldSource)
    (first second : Record) (before after : Supply) :
    ((drawFields source first columns Keyed.empty).run before).1 =
        ((drawFields other second columns Keyed.empty).run after).1 ↔
      ∀ column ∈ columns,
        ((drawFields source first columns Keyed.empty).run before).1.get? column.field =
          ((drawFields other second columns Keyed.empty).run after).1.get? column.field := by
  constructor
  · intro same column _
    rw [same]
  · refine fun same => Keyed.ext_of_get? fun field => ?_
    by_cases named : ∃ column ∈ columns, column.field = field
    · obtain ⟨column, member, rfl⟩ := named
      exact same column member
    · have absent : ∀ column ∈ columns, column.field ≠ field :=
        fun column member equal => named ⟨column, member, equal⟩
      rw [get?_drawFields_of_absent absent, get?_drawFields_of_absent absent]

/-- What is read of a record that holds the values of an instance. -/
theorem get?_hydrate_bindings {entity : Entity} (typed : entity.schema = schema)
    (fields : schema.DistinctFields) (storages : schema.DistinctStorages) {column : Column}
    (member : column ∈ schema.columns) (present : (entity.value column.field).isNull = false)
    (supply : Supply) :
    ((hydrate schema (Keyed.ofList entity.bindings) .storage).run supply).1.get? column.field =
      some (column.type.coerce (entity.value column.field)) := by
  subst typed
  have stored : (Keyed.ofList entity.bindings).get? (FieldSource.storage.key column) =
      some (entity.value column.field) := by
    apply Keyed.get?_ofList_of_mem
    · rw [bindings, List.pairwise_map]
      exact storages
    · exact List.mem_map_of_mem member
  exact get?_drawFields fields member (input?_of_get? stored present) Keyed.empty supply

/-- A value that was given for a column has the form that the column holds. -/
theorem coerce_value_create (distinct : schema.DistinctFields) {values : List (String × Value)}
    {column : Column} (member : column ∈ schema.columns)
    (given : input? column .field (Keyed.ofList values) ≠ none) (supply : Supply) :
    column.type.coerce (((create schema values).run supply).1.value column.field) =
      ((create schema values).run supply).1.value column.field := by
  obtain ⟨input, taken⟩ := Option.ne_none_iff_exists'.1 given
  have kept : ((create schema values).run supply).1.get? column.field = some input :=
    get?_drawFields distinct member taken Keyed.empty supply
  rw [value, kept, Option.getD_some, coerce_of_input? taken]

/-- A value that passes its check has the form that its column holds iff it is of a kind that is
held. -/
theorem coerce_value_eq_iff {entity : Entity} {column : Column} {mode : WriteMode}
    (passed : column.check (entity.get? column.field) mode = none)
    (present : (entity.value column.field).isNull = false) :
    column.type.coerce (entity.value column.field) = entity.value column.field ↔
      column.type.holds (entity.value column.field) = true := by
  rw [get?_eq_some_value present] at passed
  exact DataType.coerce_eq_self_iff (Column.admits_of_check present passed)

/-- What is inserted of a new instance is read in the form that the columns hold. Given values are
read as they are, and so is everything iff each default is of a kind that its column holds. -/
theorem inserted_reads_back {descriptions : List EntityDescription} {registry : Registry}
    (built : Registry.ofDescriptions descriptions = .ok registry) {name : String}
    (found : registry.get? name = some schema) (values : List (String × Value))
    (supply later : Supply) {entity : Entity}
    (made : entity = ((create schema values).run supply).1)
    (checked : ∀ column ∈ schema.columns,
      column.check (entity.get? column.field) .insert = none)
    (present : ∀ column ∈ schema.columns, (entity.value column.field).isNull = false) :
    let back := ((hydrate schema (Keyed.ofList entity.bindings) .storage).run later).1
    Database.insertedValues entity = entity.bindings ∧
      (∀ column ∈ schema.columns,
        back.get? column.field = some (column.type.coerce (entity.value column.field))) ∧
      (∀ column ∈ schema.columns, input? column .field (Keyed.ofList values) ≠ none →
        back.get? column.field = entity.get? column.field) ∧
      (back.fields = entity.fields ↔
        ∀ column ∈ schema.columns, input? column .field (Keyed.ofList values) = none →
          column.type.holds (entity.value column.field) = true) := by
  subst made
  intro back
  have distinct := (Registry.regular_ofDescriptions built name schema found).2
  have storages := Registry.distinctStorages_ofDescriptions built found
  have typed : ((create schema values).run supply).1.schema = schema := rfl
  have read : ∀ column ∈ schema.columns, back.get? column.field = some (column.type.coerce _) :=
    fun column member =>
      get?_hydrate_bindings typed distinct storages member (present column member) later
  have kept : ∀ column ∈ schema.columns,
      (back.get? column.field = ((create schema values).run supply).1.get? column.field ↔
        (input? column .field (Keyed.ofList values) = none → column.type.holds
          (((create schema values).run supply).1.value column.field) = true)) := by
    intro column member
    have settled := coerce_value_eq_iff (checked column member) (present column member)
    rw [read column member, get?_eq_some_value (present column member), Option.some.injEq, settled]
    -- A given value is in the form of its column already, so that only the defaults decide.
    constructor
    · exact fun held _ => held
    · intro defaults
      by_cases missing : input? column .field (Keyed.ofList values) = none
      · exact defaults missing
      · exact settled.1 (coerce_value_create distinct member missing supply)
  refine ⟨insertedValues_eq_bindings present, read, fun column member given => ?_, ?_⟩
  · exact (kept column member).2 fun missing => absurd missing given
  · exact (drawFields_eq_iff _ _ _ _ _ _).trans (forall₂_congr kept)

end Entity

namespace Badge

private def key : Column := { Column.plain "id" .int with primaryKey := true }

private def label : Column := { Column.plain "label" .varchar with
  storage := "text", defaultValue := some (.generator fun seed => (.text "guest", seed + 1)) }

private def issued : Column :=
  { Column.plain "issued" .date with defaultValue := some .now, required := true }

private def active (initial : Value) : Column :=
  { Column.plain "active" .boolean with defaultValue := some (.fixed initial) }

def description (initial : Value) : EntityDescription :=
  ⟨"Badge", "badges", [key, label, issued, active initial], []⟩

def badge (initial : Value) : EntitySchema :=
  ⟨"Badge", "badges", [key, label, issued, active initial], [], key, List.mem_cons_self⟩

/-- Badges that are active from the first if the value says so. -/
def registry (initial : Value) : Registry := ⟨Keyed.ofList [("Badge", badge initial)]⟩

/-- A new badge of which only the number is given, as a text. -/
def fresh (initial : Value) : Entity :=
  ((Entity.create (badge initial) [("id", .text "7")]).run default).1

/-- A badge as it is read after it was inserted. -/
def back (entity : Entity) : Entity :=
  ((Entity.hydrate entity.schema (Keyed.ofList entity.bindings) .storage).run default).1

end Badge

namespace Entity

open Badge

/-- A number that was given as a text, a made-up label, the date of today and a truth value are read
as they were inserted. -/
theorem inserted_reads_back_badge :
    Registry.ofDescriptions [description (.bool true)] = .ok (registry (.bool true)) ∧
      Database.insertedValues (fresh (.bool true)) = (fresh (.bool true)).bindings ∧
      (fresh (.bool true)).bindings = [("id", .int 7), ("text", .text "guest"),
        ("issued", .date (default : Supply).now.date), ("active", .bool true)] ∧
      (back (fresh (.bool true))).fields = (fresh (.bool true)).fields := by
  have built : Registry.ofDescriptions [description (.bool true)] = .ok (registry (.bool true)) :=
    rfl
  have found : (registry (.bool true)).get? "Badge" = some (badge (.bool true)) := rfl
  have made : fresh (.bool true) =
      ((create (badge (.bool true)) [("id", .text "7")]).run default).1 := rfl
  have checked : ∀ column ∈ (badge (.bool true)).columns,
      column.check ((fresh (.bool true)).get? column.field) .insert = none := by decide
  have present : ∀ column ∈ (badge (.bool true)).columns,
      ((fresh (.bool true)).value column.field).isNull = false := by decide
  obtain ⟨inserted, -, -, same⟩ :=
    inserted_reads_back built found _ default default made checked present
  exact ⟨built, inserted, rfl, same.2 (by decide)⟩

/-- The integer that a column of truth values has as its default is inserted as it is, and a truth
value is read. -/
theorem default_reads_otherwise :
    Registry.ofDescriptions [description (.int 1)] = .ok (registry (.int 1)) ∧
      (∀ column ∈ (badge (.int 1)).columns,
        column.check ((fresh (.int 1)).get? column.field) .insert = none ∧
          ((fresh (.int 1)).value column.field).isNull = false) ∧
      Database.insertedValues (fresh (.int 1)) = (fresh (.int 1)).bindings ∧
      (fresh (.int 1)).get? "active" = some (.int 1) ∧
      (back (fresh (.int 1))).get? "active" = some (.bool true) ∧
      (back (fresh (.int 1))).fields ≠ (fresh (.int 1)).fields := by
  refine ⟨rfl, by decide, rfl, rfl, rfl, fun same => ?_⟩
  have alike : (back (fresh (.int 1))).get? "active" = (fresh (.int 1)).get? "active" :=
    congrArg (Keyed.get? "active") same
  cases alike

end Entity

end EntityMapper
