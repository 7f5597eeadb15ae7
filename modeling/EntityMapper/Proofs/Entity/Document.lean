import EntityMapper.Entity.Document
import EntityMapper.Proofs.Calendar.Reading
import EntityMapper.Proofs.Entity.Hydration
import EntityMapper.Proofs.Number.Decimal
import EntityMapper.Proofs.Schema.Acceptance
import EntityMapper.Proofs.Value.Document

set_option autoImplicit false

/-! Instances made of the documents of others. Each value is written as its kind asks for, and the
type of its column reads it back, whatever else stands in the document. -/

namespace EntityMapper

namespace Json

theorem mem_of_mem_putMember {key : String} {value : Json} {members : List (String × Json)}
    {member : String × Json} (there : member ∈ putMember key value members) :
    member = (key, value) ∨ member ∈ members := by
  induction members with
  | nil => exact Or.inl (List.mem_singleton.1 there)
  | cons first rest ih =>
      rw [putMember_cons] at there
      split at there
      · exact (List.mem_cons.1 there).imp_right (List.mem_cons_of_mem _)
      · rcases List.mem_cons.1 there with rfl | later
        · exact Or.inr List.mem_cons_self
        · exact (ih later).imp_right (List.mem_cons_of_mem _)

theorem mem_keys_putMember (key other : String) (value : Json) (members : List (String × Json)) :
    other ∈ (putMember key value members).map Prod.fst ↔
      other = key ∨ other ∈ members.map Prod.fst := by
  induction members with
  | nil => simp
  | cons first rest ih =>
      rw [putMember_cons, List.map_cons, List.mem_cons]
      split
      · rename_i same
        rw [List.map_cons, List.mem_cons, same]
        simp
      · rw [List.map_cons, List.mem_cons, ih, or_left_comm]

/-- All members that count are among those given. -/
theorem mem_of_mem_ofMembers {members : List (String × Json)} {member : String × Json}
    (there : member ∈ ofMembers members) : member ∈ members := by
  have steps : ∀ found, member ∈ members.foldl
      (fun found member => putMember member.1 member.2 found) found →
        member ∈ members ∨ member ∈ found := by
    clear there
    induction members with
    | nil => exact fun found old => Or.inr old
    | cons first rest ih =>
        intro found there
        rcases ih _ there with later | put
        · exact Or.inl (List.mem_cons_of_mem _ later)
        · rcases mem_of_mem_putMember put with rfl | old
          · exact Or.inl List.mem_cons_self
          · exact Or.inr old
  exact (steps [] there).resolve_right List.not_mem_nil

/-- No key is lost. -/
theorem mem_keys_ofMembers {members : List (String × Json)} {key : String}
    (named : key ∈ members.map Prod.fst) : key ∈ (ofMembers members).map Prod.fst := by
  have steps : ∀ found : List (String × Json),
      key ∈ members.map Prod.fst ∨ key ∈ found.map Prod.fst →
        key ∈ (members.foldl (fun found member => putMember member.1 member.2 found) found).map
          Prod.fst := by
    clear named
    induction members with
    | nil => exact fun found old => old.resolve_left List.not_mem_nil
    | cons first rest ih =>
        intro found there
        refine ih _ ?_
        rw [mem_keys_putMember]
        rw [List.map_cons, List.mem_cons, or_assoc] at there
        exact or_left_comm.1 there
  exact steps [] (Or.inl named)

end Json

namespace DataType

/-- Whether a value is of the kind that columns of the type hold. -/
def isNormal (type : DataType) : Value → Bool
  | .text _ => type.isText
  | .int _ => type.isInteger
  | .decimal _ => type = .decimal
  | .date _ => type = .date
  | .dateTime _ => type = .dateTime
  | .bool _ => type = .boolean
  | _ => false

variable {type : DataType} {value : Value}

theorem isNull_document (normal : type.isNormal value = true) :
    (Value.ofJson value.toJson).isNull = false := by
  cases value with
  | int i => rw [Value.ofJson_toJson (.int i)]; rfl
  | bool flag => rw [Value.ofJson_toJson (.bool flag)]; rfl
  | text spelling => rw [Value.ofJson_toJson (.text spelling)]; rfl
  | decimal number => rw [Value.toJson, Value.ofJson]; rfl
  | date day => rw [Value.toJson, Value.ofJson]; rfl
  | dateTime moment => rw [Value.toJson, Value.ofJson]; rfl
  | null | float number | list items => cases normal

/-- A value of the kind of its column is read back from its document. -/
theorem same_coerce_document (normal : type.isNormal value = true) :
    (type.coerce (Value.ofJson value.toJson)).same value = true := by
  cases value with
  | int i =>
      rw [Value.ofJson_toJson (.int i)]
      cases type with
      | tinyInt | smallInt | mediumInt | int | bigInt => exact beq_self_eq_true i
      | _ => cases normal
  | bool flag =>
      rw [Value.ofJson_toJson (.bool flag)]
      obtain rfl : type = .boolean := of_decide_eq_true normal
      exact beq_self_eq_true flag
  | text spelling =>
      rw [Value.ofJson_toJson (.text spelling)]
      cases type with
      | varchar | text | longText => exact beq_self_eq_true spelling
      | _ => cases normal
  | decimal number =>
      obtain rfl : type = .decimal := of_decide_eq_true normal
      rw [Value.toJson, Value.ofJson, coerce, coerceDecimal, Decimal.read_text]
      exact number.same_spelled
  | date day =>
      obtain rfl : type = .date := of_decide_eq_true normal
      rw [Value.toJson, Value.ofJson, coerce, coerceDate, DateTime.read?_date_text]
      exact beq_self_eq_true day
  | dateTime moment =>
      obtain rfl : type = .dateTime := of_decide_eq_true normal
      rw [Value.toJson, Value.ofJson, coerce, coerceDateTime, DateTime.read?_text]
      exact beq_self_eq_true moment
  | null | float number | list items => cases normal

end DataType

namespace Entity

/-- The members of the document of an instance, as values. -/
def documentValues (entity : Entity) : List (String × Value) :=
  match entity.toJson with
  | .object members => members.map fun member => (member.1, Value.ofJson member.2)
  | _ => []

theorem documentValues_mk (schema : EntitySchema) (fields : Record) (stored : Option Record)
    (relations : List (String × Related)) (state : Lifecycle) :
    (Entity.mk schema fields stored relations state).documentValues =
      (Json.ofMembers (fieldMembers schema fields ++ relationMembers relations)).map
        fun member => (member.1, Value.ofJson member.2) := by
  rw [documentValues, toJson]

theorem exists_of_mem_relationMembers {relations : List (String × Related)}
    {member : String × Json} (there : member ∈ relationMembers relations) :
    ∃ relation ∈ relations, relation.1 = member.1 := by
  induction relations with
  | nil => cases there
  | cons first rest ih =>
      rw [relationMembers] at there
      rcases List.mem_cons.1 there with rfl | later
      · exact ⟨first, List.mem_cons_self, rfl⟩
      · obtain ⟨relation, listed, named⟩ := ih later
        exact ⟨relation, List.mem_cons_of_mem _ listed, named⟩

/-- Under the name of a field, a document holds the value of the field. -/
theorem get?_documentValues {entity : Entity} {column : Column}
    (member : column ∈ entity.schema.columns)
    (apart : ∀ relation ∈ entity.relations, relation.1 ≠ column.field) :
    (Keyed.ofList entity.documentValues).get? column.field =
      some (Value.ofJson (entity.value column.field).toJson) := by
  obtain ⟨schema, fields, stored, relations, state⟩ := entity
  rw [documentValues_mk]
  apply Keyed.get?_ofList_of_unique
  · have listed : column.field ∈
        (fieldMembers schema fields ++ relationMembers relations).map Prod.fst := by
      rw [List.map_append, List.mem_append]
      exact Or.inl (List.mem_map.2 ⟨_, List.mem_map_of_mem member, rfl⟩)
    obtain ⟨found, there, named⟩ := List.mem_map.1 (Json.mem_keys_ofMembers listed)
    exact ⟨_, List.mem_map_of_mem there, named⟩
  · rintro entry there named
    obtain ⟨found, kept, rfl⟩ := List.mem_map.1 there
    rcases List.mem_append.1 (Json.mem_of_mem_ofMembers kept) with field | related
    · obtain ⟨other, -, rfl⟩ := List.mem_map.1 field
      have same : other.field = column.field := named
      rw [same]
      rfl
    · obtain ⟨relation, listed, same⟩ := exists_of_mem_relationMembers related
      exact absurd (same.trans named) (apart relation listed)

/-- A new instance that is made of the members of another one's document has equal values, if those
are of the kinds of their columns, and columns without a value have no default. What is attached
under the names of associations stands in the document and changes nothing. -/
theorem document_reads_back {descriptions : List EntityDescription} {registry : Registry}
    (built : Registry.ofDescriptions descriptions = .ok registry) {name : String}
    {schema : EntitySchema} (found : registry.get? name = some schema) {entity : Entity}
    (typed : entity.schema = schema)
    (populated : ∀ relation ∈ entity.relations,
      ∃ association ∈ schema.associations, association.name = relation.1)
    (normal : ∀ column ∈ schema.columns,
      column.type.isNormal (entity.value column.field) = true ∨
        (entity.value column.field).isNull = true ∧ column.defaultValue = none)
    (supply : Supply) :
    ∀ column ∈ schema.columns, ∃ value,
      ((create schema entity.documentValues).run supply).1.get? column.field = some value ∧
        value.same (entity.value column.field) = true := by
  subst typed
  have distinct := (Registry.regular_ofDescriptions built name entity.schema found).2
  obtain ⟨description, -, -, success⟩ := Registry.exists_description built found
  have formed := EntityDescription.exists_schema_iff.1 ⟨entity.schema, success⟩
  have described := (EntityDescription.describes_of_schema success).same
  intro column member
  have apart : ∀ relation ∈ entity.relations, relation.1 ≠ column.field := by
    rintro relation listed same
    obtain ⟨association, declared, named⟩ := populated relation listed
    rw [← described] at formed
    exact formed.apart association declared (named.trans same ▸ List.mem_map_of_mem member)
  have held := get?_documentValues member apart
  rcases normal column member with kind | ⟨null, free⟩
  · have given := @input?_of_get? column .field _ _ held (DataType.isNull_document kind)
    exact ⟨_, get?_drawFields distinct member given _ supply, DataType.same_coerce_document kind⟩
  · rw [(Value.isNull_iff _).1 null] at held ⊢
    have missing : input? column .field (Keyed.ofList entity.documentValues) = none := by
      rw [input?, FieldSource.key, held]
      rfl
    refine ⟨.null, get?_drawFields_of_drawn distinct member (fun supply => ?_) _ supply, rfl⟩
    rw [missing, Column.drawDefault, free]
    rfl

end Entity

namespace Fair

private def key : Column := { Column.plain "id" .int with primaryKey := true }

private def columns : List Column :=
  [key, .plain "title" .varchar, .plain "price" .decimal, .plain "opens" .date,
    .plain "closes" .dateTime, .plain "indoors" .boolean, .plain "hostId" .bigInt]

/-- A fair takes place within another one, or alone. -/
private def host : Association := ⟨"host", "Fair", .belongsTo "hostId"⟩

def description : EntityDescription := ⟨"Fair", "fairs", columns, [host]⟩

def fair : EntitySchema := ⟨"Fair", "fairs", columns, [host], key, List.mem_cons_self⟩

def registry : Registry := ⟨Keyed.ofList [("Fair", fair)]⟩

private def spring : Entity := .mk fair (Keyed.ofList [("id", .int 3)]) none [] .new

/-- A fair with a price of `2.50` and a fraction of a second, attached to another one. -/
def books : Entity :=
  .mk fair
    (Keyed.ofList
      [("id", .int 7), ("title", .text "Book fair"), ("price", .decimal ⟨false, 250, 2, by decide,
        by decide⟩), ("opens", .date ⟨2024, 5, 1, rfl⟩),
        ("closes", .dateTime ⟨⟨2024, 5, 3, rfl⟩, ⟨18, 30, 0, 120000000, rfl⟩⟩),
        ("indoors", .bool true), ("hostId", .null)])
    none [("host", .one spring)] .new

end Fair

namespace Entity

/-- Days, moments and decimals are texts in between, and so is the host. -/
theorem document_reads_back_fair :
    Registry.ofDescriptions [Fair.description] = .ok Fair.registry ∧
      Fair.books.documentValues =
        [("id", .int 7), ("title", .text "Book fair"), ("price", .text "2.50"),
          ("opens", .text "2024-05-01"), ("closes", .text "2024-05-03T18:30:00.120"),
          ("indoors", .bool true), ("hostId", .null),
          ("host", .text ("\x7b\"id\":3,\"title\":null,\"price\":null,\"opens\":null," ++
            "\"closes\":null,\"indoors\":null,\"hostId\":null\x7d"))] ∧
      ∀ supply, ∀ column ∈ Fair.fair.columns, ∃ value,
        ((create Fair.fair Fair.books.documentValues).run supply).1.get? column.field =
            some value ∧
          value.same (Fair.books.value column.field) = true := by
  have built : Registry.ofDescriptions [Fair.description] = .ok Fair.registry := rfl
  have found : Fair.registry.get? "Fair" = some Fair.fair := rfl
  refine ⟨built, rfl, fun supply => document_reads_back built found rfl ?_ ?_ supply⟩
  · intro relation member
    rw [List.mem_singleton.1 member]
    exact ⟨_, List.mem_cons_self, rfl⟩
  · intro column member
    simp only [Fair.fair, Fair.columns, List.mem_cons, List.not_mem_nil, or_false] at member
    rcases member with rfl | rfl | rfl | rfl | rfl | rfl | rfl
    · exact Or.inl rfl
    · exact Or.inl rfl
    · exact Or.inl rfl
    · exact Or.inl rfl
    · exact Or.inl rfl
    · exact Or.inl rfl
    · exact Or.inr ⟨rfl, rfl⟩

end Entity

end EntityMapper
