import EntityMapper.Proofs.Pairing
import EntityMapper.Proofs.Session.Writing
import EntityMapper.Proofs.Statement.Fragment

set_option autoImplicit false

/-! What failed operations on an instance leave behind: lookups change nothing, and the statement
that changes a row is the last one. -/

namespace EntityMapper

open Fragment

/-- The database carried out a change of rows. -/
def Exchange.Writes (exchange : Exchange) : Prop :=
  (∃ response, exchange.answer = .ok response) ∧
    StatementKind.ofText exchange.statement.text ∈ [.insert, .update, .delete]

theorem Query.kind_findOne {table : TableRef} {filter : Filter} {statement : Statement}
    (written : (findOne table filter default).statement = .ok statement) :
    StatementKind.ofText statement.text = .select := by
  obtain ⟨-, rfl⟩ := statement_eq_ok written
  obtain ⟨tail, pieces⟩ : ∃ tail, (findOne table filter default).pieces =
      .words "SELECT *" :: tail := ⟨_, rfl⟩
  have letters : (findOne table filter default).text.toList =
      "SELECT *".toList ++ tail.flatMap fun piece => piece.text.toList := by
    rw [← chars, chars_eq, pieces, List.flatMap_cons]
    rfl
  have word : StatementKind.keyword (findOne table filter default).text = "SELECT" := by
    rw [StatementKind.keyword, letters]
    rfl
  unfold StatementKind.ofText
  rw [word]
  rfl

namespace Database

variable {σ : Type}

/-- What fails was not carried out. -/
theorem Fails.not_writes {written : Except QueryFault Statement} {exchanges : List Exchange}
    {error : Error} (fails : Fails written exchanges error) :
    ∀ exchange ∈ exchanges, ¬ exchange.Writes := by
  cases fails with
  | unwritten failed => exact List.forall_mem_nil _
  | refused success reason => exact List.forall_mem_nil _
  | failed success error =>
      rw [List.forall_mem_singleton]
      rintro ⟨⟨response, answered⟩, -⟩
      cases answered

end Database

namespace Entity

theorem Checks.not_writes {entity : Entity} {mode : WriteMode} {exchanges : List Exchange}
    {result : Result Unit} (checks : entity.Checks mode exchanges result) :
    ∀ exchange ∈ exchanges, ¬ exchange.Writes := by
  rintro exchange member ⟨-, changes⟩
  obtain ⟨unique, asked⟩ := checks.sent exchange member
  rw [Query.kind_findOne asked] at changes
  simp at changes

/-- The key is a field, and can be given a value. -/
theorem set_primaryKey (entity : Entity) (value : Value) :
    ∃ changed, entity.set entity.schema.primaryKey.field value = .ok changed := by
  obtain ⟨schema, fields, stored, relations, state⟩ := entity
  have found : (schema.column? schema.primaryKey.field).isSome = true := by
    rw [EntitySchema.column?, List.find?_isSome]
    exact ⟨schema.primaryKey, schema.primaryKey_mem, decide_eq_true rfl⟩
  obtain ⟨column, found⟩ := Option.isSome_iff_exists.1 found
  refine ⟨.mk schema (fields.insert schema.primaryKey.field (column.type.coerce value)) none
    relations state, ?_⟩
  change set schema.primaryKey.field value (.mk schema fields stored relations state) = _
  rw [set, found]

theorem withGeneratedKey_eq_error {entity : Entity} {made : Option UInt64} {error : Error}
    (failed : Database.withGeneratedKey entity made = .error error) :
    entity.primaryKey? = none ∧ ∃ key, made = some key ∧
      9223372036854775807 < key.toNat ∧ error = .execution (.keyTooLarge key) none := by
  unfold Database.withGeneratedKey at failed
  split at failed
  · rename_i key keyless
    refine ⟨keyless, key, rfl, ?_⟩
    rw [Database.generatedKey] at failed
    by_cases fits : key.toNat ≤ 9223372036854775807
    · obtain ⟨changed, set⟩ := entity.set_primaryKey (.int (Int64.ofNat key.toNat))
      have stored : (entity.set entity.schema.primaryKey.field
          (.int (Int64.ofNat key.toNat))).mapError Error.query = .error error := by
        rwa [if_pos fits] at failed
      rw [set] at stored
      cases stored
    · rw [if_neg fits] at failed
      exact ⟨Nat.lt_of_not_le fits, (Except.error.inj failed).symm⟩
  · cases failed

/-- A row was inserted last, and the key that the database made for it does not fit an instance. -/
def LosesKey (entity : Entity) (exchanges : List Exchange) (error : Error) : Prop :=
  entity.primaryKey? = none ∧ ∃ lookups statement response key,
    exchanges = lookups ++ [⟨statement, .ok response⟩] ∧
    (∀ exchange ∈ lookups, ¬ exchange.Writes) ∧ entity.rowStatement .insert = .ok statement ∧
    response.insertId = some key ∧ 9223372036854775807 < key.toNat ∧
    error = .execution (.keyTooLarge key) none

/-- Only a generated key that does not fit spoils a write that was carried out. -/
theorem written_eq_error {entity : Entity} {response : Response} {mode : WriteMode} {error : Error}
    (failed : entity.written response mode = .error error) :
    mode = .insert ∧ entity.primaryKey? = none ∧ ∃ key, response.insertId = some key ∧
      9223372036854775807 < key.toNat ∧ error = .execution (.keyTooLarge key) none := by
  cases mode with
  | update => cases failed
  | insert =>
      rw [written] at failed
      cases keyed : Database.withGeneratedKey entity response.insertId with
      | ok changed =>
          rw [keyed] at failed
          cases failed
      | error other =>
          rw [keyed] at failed
          obtain rfl := Except.error.inj failed
          exact ⟨rfl, withGeneratedKey_eq_error keyed⟩

end Entity

/-- The writes of an instance. -/
inductive Operation where
  | insert
  | update
  | remove
deriving DecidableEq

namespace Database

variable {σ : Type}

/-- The steps of a removal. -/
def removing (db : Database σ) (entity : Entity) : Session σ Entity := do
  checkLive entity
  match entity.primaryKey? with
  | none =>
      throw (.validation (FieldErrors.empty.add entity.schema.primaryKey.field .required))
  | some key =>
      let statement ←
        (Query.delete entity.schema.table (keyFilter entity.schema key)).statement
      let _ ← db.run "delete" (some entity.schema.name) statement false
      pure (entity.withState .deleted)

theorem remove_eq (db : Database σ) (entity : Entity) (world : World σ) :
    db.remove (entity, world) = Writing.keep entity (db.removing entity world) := by
  have steps : db.removing entity = ((do
      checkLive entity
      match entity.primaryKey? with
      | none =>
          throw (.validation (FieldErrors.empty.add entity.schema.primaryKey.field .required))
      | some key =>
          let statement ←
            (Query.delete entity.schema.table (keyFilter entity.schema key)).statement
          let _ ← db.run "delete" (some entity.schema.name) statement false : Session σ Unit) >>=
        fun _ => pure (entity.withState .deleted)) := by
    rw [removing, bind_assoc]
    cases entity.primaryKey? with
    | none => rfl
    | some key =>
        simp only [bind_assoc, pure_bind]
  rw [steps]
  exact Writing.keep_bind (fun _ _ => rfl) world

theorem removing_fails (db : Database σ) (entity : Entity) :
    db.Meets (db.removing entity) fun exchanges result => ∀ error, result = .error error →
      ∀ exchange ∈ exchanges, ¬ exchange.Writes := by
  rw [removing]
  apply Meets.query_bind
  · exact fun fault failed error same => List.forall_mem_nil _
  · rintro ⟨⟩ live
    cases entity.primaryKey? with
    | none => exact .throw fun error same => List.forall_mem_nil _
    | some key =>
        apply Meets.run_bind
        · exact fun exchanges error fails other same => fails.not_writes
        · exact fun statement response success => .pure fun error same => nomatch same

theorem saving_fails (db : Database σ) (mode : WriteMode) (entity : Entity) :
    db.Meets (db.saving mode entity) fun exchanges result => ∀ error, result = .error error →
      (∀ exchange ∈ exchanges, ¬ exchange.Writes) ∨
      (mode = .insert ∧ entity.LosesKey exchanges error) := by
  refine (db.saving_course mode entity).imp fun exchanges result course error failed => ?_
  rcases course with ⟨rfl, -⟩ | ⟨-, course⟩
  · exact Or.inl (List.forall_mem_nil _)
  · cases course with
    | rejected checks => exact Or.inl checks.not_writes
    | unwritten checks fails =>
        exact Or.inl (List.forall_mem_append.2 ⟨checks.not_writes, fails.not_writes⟩)
    | @written lookups statement checks success response =>
        obtain ⟨rfl, keyless, key, made, large, same⟩ := Entity.written_eq_error failed
        exact Or.inr ⟨rfl, keyless, lookups, statement, response, key, rfl,
          checks.not_writes, success, made, large, same⟩

end Database

namespace Account

/-- The first answer is an error. -/
def unreachable : World (List (Result Response)) :=
  .prepared [.error (.execution (.reported "gone") none)]

/-- Lookups find nothing, and inserts make keys of more than 63 bits. -/
def crowded : World (List (Result Response)) :=
  .prepared [.ok .empty, .ok ⟨[], 1, some 9223372036854775808⟩, .ok .empty,
    .ok ⟨[], 1, some 9223372036854775809⟩]

end Account

namespace Operation

variable {σ : Type}

def run (db : Database σ) : Operation → Writing σ Unit
  | .insert => db.insert
  | .update => db.update
  | .remove => db.remove

/-- The steps of an operation, from one instance to the next. -/
def steps (db : Database σ) : Operation → Entity → Session σ Entity
  | .insert => db.saving .insert
  | .update => db.saving .update
  | .remove => db.removing

theorem run_eq (db : Database σ) (operation : Operation) (entity : Entity) (world : World σ) :
    operation.run db (entity, world) = Writing.keep entity (operation.steps db entity world) := by
  cases operation with
  | insert => exact db.write_eq .insert entity world
  | update => exact db.write_eq .update entity world
  | remove => exact db.remove_eq entity world

theorem steps_fail (db : Database σ) (operation : Operation) (entity : Entity) :
    db.Meets (operation.steps db entity) fun exchanges result => ∀ error, result = .error error →
      (∀ exchange ∈ exchanges, ¬ exchange.Writes) ∨
      (operation = .insert ∧ entity.LosesKey exchanges error) := by
  cases operation with
  | insert =>
      refine (db.saving_fails .insert entity).imp fun exchanges result held error failed => ?_
      exact (held error failed).imp_right fun lost => ⟨rfl, lost.2⟩
  | update =>
      refine (db.saving_fails .update entity).imp fun exchanges result held error failed => ?_
      exact (held error failed).imp_right fun lost => nomatch lost.1
  | remove =>
      exact (db.removing_fails entity).imp fun exchanges result held error failed =>
        Or.inl (held error failed)

/-- An operation that fails keeps the instance as it was, and the database carried out no change of
rows, whatever it answers and the hooks refuse. The one exception is an insert for which the
database made a key that does not fit. -/
theorem failed_writes_nothing (db : Database σ) {operation : Operation} {entity : Entity}
    {world : World σ} {error : Error}
    (failed : (operation.run db (entity, world)).1 = .error error) :
    (operation.run db (entity, world)).2.1 = entity ∧
      ∃ exchanges, db.Exchanged world exchanges (operation.run db (entity, world)).2.2 ∧
        ((∀ exchange ∈ exchanges, ¬ exchange.Writes) ∨
          (operation = .insert ∧ entity.LosesKey exchanges error)) := by
  obtain ⟨exchanges, exchanged, held⟩ := operation.steps_fail db entity world
  rw [run_eq] at failed ⊢
  generalize operation.steps db entity world = outcome at failed exchanged held ⊢
  obtain ⟨other | changed, after⟩ := outcome
  · obtain rfl := Except.error.inj failed
    exact ⟨rfl, exchanges, exchanged, held _ rfl⟩
  · cases failed

/-- The lookup of an address fails, and no account is written. -/
theorem failed_writes_nothing_account :
    (Operation.insert.run Database.scripted (Account.fresh, Account.unreachable)).1 =
        .error (.execution (.reported "gone") (some
          "SELECT * FROM \x60accounts\x60 WHERE \x60email\x60 = ? LIMIT ? OFFSET ?;")) ∧
      (Operation.insert.run Database.scripted (Account.fresh, Account.unreachable)).2.1 =
        Account.fresh ∧
      ∃ exchanges, Database.scripted.Exchanged Account.unreachable exchanges
          (Operation.insert.run Database.scripted (Account.fresh, Account.unreachable)).2.2 ∧
        ∀ exchange ∈ exchanges, ¬ exchange.Writes := by
  have failed : (Operation.insert.run Database.scripted (Account.fresh, Account.unreachable)).1 =
      .error (.execution (.reported "gone") (some
        "SELECT * FROM \x60accounts\x60 WHERE \x60email\x60 = ? LIMIT ? OFFSET ?;")) := rfl
  obtain ⟨kept, exchanges, exchanged, held⟩ := failed_writes_nothing Database.scripted failed
  refine ⟨failed, kept, exchanges, exchanged, ?_⟩
  rcases held with clean | ⟨-, -, lookups, statement, response, key, -, -, -, -, -, lost⟩
  · exact clean
  · cases lost

/-- An account is inserted, and the insert fails, as the key that the database made is too large.
The account counts as new, so that inserting it again writes it once more. -/
theorem failed_insert_writes :
    (Operation.insert.run Database.scripted (Account.fresh, Account.crowded)).1 =
        .error (.execution (.keyTooLarge 9223372036854775808) none) ∧
      (∃ exchanges, Database.scripted.Exchanged Account.crowded exchanges
          (Operation.insert.run Database.scripted (Account.fresh, Account.crowded)).2.2 ∧
        ∃ exchange ∈ exchanges, exchange.Writes) ∧
      (Operation.insert.run Database.scripted (Operation.insert.run Database.scripted
          (Account.fresh, Account.crowded)).2).2.2.monitor.calls.map Prod.fst =
        ["SELECT * FROM \x60accounts\x60 WHERE \x60email\x60 = ? LIMIT ? OFFSET ?;",
          "INSERT INTO \x60accounts\x60 (\x60email\x60) VALUES (?);",
          "SELECT * FROM \x60accounts\x60 WHERE \x60email\x60 = ? LIMIT ? OFFSET ?;",
          "INSERT INTO \x60accounts\x60 (\x60email\x60) VALUES (?);"] := by
  refine ⟨rfl, ?_, rfl⟩
  let lookup : Exchange :=
    ⟨⟨"SELECT * FROM \x60accounts\x60 WHERE \x60email\x60 = ? LIMIT ? OFFSET ?;",
      [.text "a@b.c", .int 1, .int 0]⟩, .ok .empty⟩
  let insertion : Exchange :=
    ⟨⟨"INSERT INTO \x60accounts\x60 (\x60email\x60) VALUES (?);", [.text "a@b.c"]⟩,
      .ok ⟨[], 1, some 9223372036854775808⟩⟩
  refine ⟨[lookup, insertion], ⟨rfl, rfl⟩, insertion, by simp, ⟨_, rfl⟩, ?_⟩
  decide

end Operation

end EntityMapper
