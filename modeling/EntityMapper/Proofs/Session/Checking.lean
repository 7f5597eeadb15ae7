import EntityMapper.Proofs.Pairing
import EntityMapper.Proofs.Session.Exchange
import EntityMapper.Proofs.Validation.Reason
import EntityMapper.Session.Instance
import Mathlib.Data.List.Forall2

set_option autoImplicit false

/-! The checks before an instance is written: all columns first, without the database, and then a
lookup for each unique column that has a value, up to the first that fails. -/

namespace EntityMapper

/-- The database answered with rows. -/
def Exchange.hasRows (exchange : Exchange) : Bool :=
  match exchange.answer with
  | .ok response => !response.rows.isEmpty
  | .error _ => false

namespace Entity

/-- The lookup of other rows that hold the value of a unique column. -/
def lookup (entity : Entity) (mode : WriteMode) (unique : Column × Value) :
    Except QueryFault Statement :=
  (Query.findOne (.named entity.schema.table)
    (Database.takenFilter entity unique.1 unique.2 mode) default).statement

/-- The lookup of a unique column was sent and answered. -/
structure Answered (entity : Entity) (mode : WriteMode) (unique : Column × Value)
    (exchange : Exchange) : Prop where
  asked : entity.lookup mode unique = .ok exchange.statement
  answered : ∃ response, exchange.answer = .ok response

/-- The fields of the unique columns whose value is taken, by what their lookups brought. -/
def takenFields (uniques : List (Column × Value)) (lookups : List Exchange) : List String :=
  ((uniques.zip lookups).filter fun asked => asked.2.hasRows).map fun asked => asked.1.1.field

theorem takenFields_cons (unique : Column × Value) (uniques : List (Column × Value))
    (exchange : Exchange) (lookups : List Exchange) :
    takenFields (unique :: uniques) (exchange :: lookups) =
      if exchange.hasRows then unique.1.field :: takenFields uniques lookups
      else takenFields uniques lookups := by
  rw [takenFields, List.zip_cons_cons, List.filter_cons]
  cases exchange.hasRows <;> rfl

theorem takenFields_eq_nil {entity : Entity} {mode : WriteMode} {uniques : List (Column × Value)}
    {lookups : List Exchange} (answers : List.Forall₂ (entity.Answered mode) uniques lookups) :
    takenFields uniques lookups = [] ↔ ∀ exchange ∈ lookups, exchange.hasRows = false := by
  induction answers with
  | nil => exact ⟨fun _ => nofun, fun _ => rfl⟩
  | @cons unique exchange uniques lookups first others ih =>
      rw [takenFields_cons, List.forall_mem_cons, ← ih]
      cases exchange.hasRows <;> simp

/-- How the checks before a write go: what is sent and answered, and the result. -/
inductive Checks (entity : Entity) (mode : WriteMode) : List Exchange → Result Unit → Prop where
  /-- Some columns cannot be written. Nothing is sent, and each of them is named. -/
  | invalid {errors : FieldErrors} (unsound : ¬ entity.Sound mode)
      (exact : ∀ field, errors.get? field = entity.schema.columns.findSome? fun column =>
        if column.field = field then column.check (entity.get? field) mode else none) :
      Checks entity mode [] (.error (.validation errors))
  /-- A lookup fails. Those of the unique columns before it were answered, none follows. -/
  | stopped (sound : entity.Sound mode) {before after : List (Column × Value)}
      {unique : Column × Value} {answered failing : List Exchange} {error : Error}
      (uniques : Database.uniqueValues entity = before ++ unique :: after)
      (answers : List.Forall₂ (entity.Answered mode) before answered)
      (fails : Database.Fails (entity.lookup mode unique) failing error) :
      Checks entity mode (answered ++ failing) (.error error)
  /-- All lookups are answered, some with rows. The columns of these are named. -/
  | taken (sound : entity.Sound mode) {lookups : List Exchange} {errors : FieldErrors}
      (answers : List.Forall₂ (entity.Answered mode) (Database.uniqueValues entity) lookups)
      (held : ∃ exchange ∈ lookups, exchange.hasRows = true)
      (exact : ∀ field reason, errors.get? field = some reason ↔ reason = .unique ∧
        field ∈ takenFields (Database.uniqueValues entity) lookups) :
      Checks entity mode lookups (.error (.validation errors))
  /-- All lookups are answered, none with rows. -/
  | passed (sound : entity.Sound mode) {lookups : List Exchange}
      (answers : List.Forall₂ (entity.Answered mode) (Database.uniqueValues entity) lookups)
      (free : ∀ exchange ∈ lookups, exchange.hasRows = false) :
      Checks entity mode lookups (.ok ())

/-- Nothing but lookups of unique columns is sent. -/
theorem Checks.sent {entity : Entity} {mode : WriteMode} {exchanges : List Exchange}
    {result : Result Unit} (checks : entity.Checks mode exchanges result) :
    ∀ exchange ∈ exchanges, ∃ unique, entity.lookup mode unique = .ok exchange.statement := by
  have lookups {uniques : List (Column × Value)} {lookups : List Exchange}
      (answers : List.Forall₂ (entity.Answered mode) uniques lookups) :
      ∀ exchange ∈ lookups, ∃ unique, entity.lookup mode unique = .ok exchange.statement := by
    intro exchange member
    obtain ⟨unique, -, answered⟩ := Pairing.exists_left answers member
    exact ⟨unique, answered.asked⟩
  cases checks with
  | invalid unsound exact => exact List.forall_mem_nil _
  | stopped sound uniques answers fails =>
      exact List.forall_mem_append.2
        ⟨lookups answers, fun exchange member => ⟨_, fails.sent exchange member⟩⟩
  | taken sound answers held exact => exact lookups answers
  | passed sound answers free => exact lookups answers

theorem Checks.sound {entity : Entity} {mode : WriteMode} {exchanges : List Exchange}
    (checks : entity.Checks mode exchanges (.ok ())) : entity.Sound mode := by
  cases checks with
  | passed sound answers free => exact sound

end Entity

namespace Database

variable {σ : Type}

/-- How the lookup of one unique column goes. -/
inductive Asks (entity : Entity) (mode : WriteMode) (unique : Column × Value) :
    List Exchange → Result Bool → Prop where
  | fails {exchanges : List Exchange} {error : Error}
      (fails : Fails (entity.lookup mode unique) exchanges error) :
      Asks entity mode unique exchanges (.error error)
  | answered {exchange : Exchange} (answered : entity.Answered mode unique exchange) :
      Asks entity mode unique [exchange] (.ok exchange.hasRows)

theorem isTaken_asks (db : Database σ) (entity : Entity) (mode : WriteMode)
    (unique : Column × Value) :
    db.Meets (db.isTaken entity unique.1 unique.2 mode) (Asks entity mode unique) := by
  refine Meets.run_bind (fun _ _ fails => .fails fails) fun statement response success => ?_
  exact .pure (.answered ⟨success, response, rfl⟩)

/-- The errors with one for each field whose value is taken. -/
def noted (errors : FieldErrors) (fields : List String) : FieldErrors :=
  (fields.map fun field => (field, Reason.unique)).foldl
    (fun errors failure => errors.add failure.1 failure.2) errors

theorem noted_cons_if (errors : FieldErrors) (taken : Bool) (field : String)
    (fields : List String) :
    noted errors (if taken then field :: fields else fields) =
      noted (if taken then errors.add field .unique else errors) fields := by
  cases taken <;> rfl

theorem get?_noted_empty (fields : List String) (field : String) (reason : Reason) :
    (noted .empty fields).get? field = some reason ↔ reason = .unique ∧ field ∈ fields := by
  have held : (noted .empty fields).get? field =
      (fields.map fun field => (field, Reason.unique)).lookup field := FieldErrors.get?_ofList _ _
  rw [held]
  clear held
  induction fields with
  | nil => simp
  | cons first rest ih =>
      rw [List.map_cons, List.lookup_cons, List.mem_cons]
      by_cases here : field = first
      · rw [beq_iff_eq.2 here, Option.some_inj]
        exact ⟨fun same => ⟨same.symm, Or.inl here⟩, fun found => found.1.symm⟩
      · rw [beq_eq_false_iff_ne.2 here, or_iff_right here]
        exact ih

theorem isEmpty_noted (fields : List String) :
    (noted .empty fields).isEmpty = fields.isEmpty := by
  cases fields with
  | nil => rfl
  | cons field rest =>
      have held := (get?_noted_empty (field :: rest) field .unique).2 ⟨rfl, List.mem_cons_self⟩
      rw [List.isEmpty_cons, Bool.eq_false_iff]
      intro vacant
      cases held.symm.trans ((FieldErrors.isEmpty_iff _).1 vacant field)

/-- How the lookups of unique columns go. -/
inductive Lookups (entity : Entity) (mode : WriteMode) (uniques : List (Column × Value))
    (errors : FieldErrors) : List Exchange → Result FieldErrors → Prop where
  | stopped {before after : List (Column × Value)} {unique : Column × Value}
      {answered failing : List Exchange} {error : Error}
      (columns : uniques = before ++ unique :: after)
      (answers : List.Forall₂ (entity.Answered mode) before answered)
      (fails : Fails (entity.lookup mode unique) failing error) :
      Lookups entity mode uniques errors (answered ++ failing) (.error error)
  | answered {lookups : List Exchange}
      (answers : List.Forall₂ (entity.Answered mode) uniques lookups) :
      Lookups entity mode uniques errors lookups
        (.ok (noted errors (Entity.takenFields uniques lookups)))

theorem collectTaken_lookups (db : Database σ) (entity : Entity) (mode : WriteMode)
    (uniques : List (Column × Value)) (errors : FieldErrors) :
    db.Meets (db.collectTaken entity mode uniques errors)
      (Lookups entity mode uniques errors) := by
  induction uniques generalizing errors with
  | nil => exact .pure (.answered .nil)
  | cons unique rest ih =>
      obtain ⟨column, value⟩ := unique
      rw [collectTaken]
      apply (db.isTaken_asks entity mode (column, value)).bind
      · intro exchanges error asks
        cases asks with
        | fails fails => exact .stopped (List.nil_append _).symm .nil fails
      · intro exchanges taken asks
        cases asks with
        | @answered exchange answered =>
            -- This lookup was answered, so that it stands before what becomes of the rest.
            refine (ih _).imp fun others result lookups => ?_
            cases lookups with
            | @stopped before after unique sent failing error columns answers fails =>
                have whole : (column, value) :: rest =
                    ((column, value) :: before) ++ unique :: after :=
                  congrArg (List.cons _) columns
                have stopped : Lookups entity mode ((column, value) :: rest) errors
                    (exchange :: sent ++ failing) (.error error) :=
                  .stopped whole (.cons answered answers) fails
                exact stopped
            | answered answers =>
                have all : Lookups entity mode ((column, value) :: rest) errors
                    (exchange :: others) _ := .answered (.cons answered answers)
                rwa [Entity.takenFields_cons, noted_cons_if] at all

/-- The checks before an instance is written. -/
theorem checkEntity_checks (db : Database σ) (entity : Entity) (mode : WriteMode) :
    db.Meets (db.checkEntity entity mode) (entity.Checks mode) := by
  rw [checkEntity]
  cases valid : (entity.faults mode).isEmpty with
  | false =>
      have unsound : ¬ entity.Sound mode := by
        rw [← entity.isEmpty_faults mode, valid]
        exact Bool.false_ne_true
      exact .throw (.invalid unsound (entity.get?_faults mode))
  | true =>
      have sound := (entity.isEmpty_faults mode).1 valid
      apply (db.collectTaken_lookups entity mode (uniqueValues entity) .empty).bind
      · intro exchanges error lookups
        cases lookups with
        | stopped uniques answers fails => exact .stopped sound uniques answers fails
      · intro exchanges errors lookups
        cases lookups with
        | answered answers =>
            rw [isEmpty_noted]
            have free := Entity.takenFields_eq_nil answers
            rw [← List.isEmpty_iff] at free
            cases vacant : (Entity.takenFields (uniqueValues entity) exchanges).isEmpty with
            | false =>
                have held : ∃ exchange ∈ exchanges, exchange.hasRows = true := by
                  rw [vacant] at free
                  simpa using free
                refine .throw ?_
                rw [List.append_nil]
                exact .taken sound answers held (get?_noted_empty _)
            | true =>
                refine .pure ?_
                rw [List.append_nil]
                exact .passed sound answers (free.1 vacant)

end Database

end EntityMapper
