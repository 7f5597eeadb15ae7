import EntityMapper.Proofs.Session.Dispatch

set_option autoImplicit false

/-! Journals: the statements that a computation sets out to run, in turn. They account for all that
is handed to the database and counted meanwhile, and the first that is refused ends the
computation. -/

namespace EntityMapper

namespace Statistics

/-- The count of the statements of a kind. -/
def ofKind (counts : Statistics) : StatementKind → UInt64
  | .select => counts.selects
  | .insert => counts.inserts
  | .update => counts.updates
  | .delete => counts.deletes
  | .other => counts.others

/-- The sum over all kinds. -/
def sum (counts : Statistics) : UInt64 :=
  counts.selects + counts.inserts + counts.updates + counts.deletes + counts.others

section Add

variable (kind : StatementKind) (failed : Bool) (duration : Nat) (counts : Statistics)

theorem total_add : (counts.add kind failed duration).total = counts.total + 1 := by
  cases kind <;> rfl

theorem failed_add : (counts.add kind failed duration).failed =
    counts.failed + if failed then 1 else 0 := by
  cases kind <;> cases failed <;> first | rfl | exact (UInt64.add_zero _).symm

theorem ofKind_add (asked : StatementKind) :
    (counts.add kind failed duration).ofKind asked =
      counts.ofKind asked + if kind = asked then 1 else 0 := by
  cases kind <;> cases asked <;> first | rfl | exact (UInt64.add_zero _).symm

theorem sum_add : (counts.add kind failed duration).sum = counts.sum + 1 := by
  cases kind <;> simp only [add, addKind, sum] <;> ac_rfl

end Add

/-- The counts are those of some statements, modulo 2^64. -/
structure Tally (counts : Statistics) (dispatches : List Dispatch) : Prop where
  total : counts.total = UInt64.ofNat dispatches.length
  sum : counts.total = counts.sum
  kinds : ∀ kind, counts.ofKind kind =
    UInt64.ofNat (dispatches.countP fun dispatch => dispatch.context.kind = kind)
  failed : counts.failed = UInt64.ofNat (dispatches.countP Dispatch.isFailure)

theorem tally_zero : zero.Tally [] := ⟨rfl, rfl, fun kind => by cases kind <;> rfl, rfl⟩

theorem Tally.add {counts : Statistics} {dispatches : List Dispatch}
    (tally : counts.Tally dispatches) (dispatch : Dispatch) (duration : Nat) :
    (counts.add dispatch.context.kind dispatch.isFailure duration).Tally
      (dispatches ++ [dispatch]) := by
  have more (holds : Dispatch → Bool) :
      UInt64.ofNat ((dispatches ++ [dispatch]).countP holds) =
        UInt64.ofNat (dispatches.countP holds) + if holds dispatch then 1 else 0 := by
    rw [List.countP_append, List.countP_singleton, UInt64.ofNat_add]
    cases holds dispatch <;> rfl
  refine ⟨?_, ?_, fun kind => ?_, ?_⟩
  · rw [total_add, tally.total, List.length_append, UInt64.ofNat_add]
    rfl
  · rw [total_add, sum_add, tally.sum]
  · rw [ofKind_add, tally.kinds, more]
    simp only [decide_eq_true_eq]
  · rw [failed_add, tally.failed, more]

end Statistics

namespace Database

variable {σ : Type}

/-- From one world to another the statements of a journal passed the hooks in turn. Apart from that
only made-up values were used up. -/
inductive Journal (db : Database σ) : World σ → List Dispatch → World σ → Prop where
  | nil (world : World σ) : Journal db world [] world
  | drawn {world after : World σ} {dispatches : List Dispatch} (supply : Supply)
      (others : Journal db { world with supply } dispatches after) :
      Journal db world dispatches after
  | cons {before between after : World σ} {dispatch : Dispatch} {dispatches : List Dispatch}
      (first : db.Passes before dispatch between)
      (others : Journal db between dispatches after) :
      Journal db before (dispatch :: dispatches) after

namespace Journal

variable {db : Database σ} {before between after : World σ} {dispatches others : List Dispatch}

theorem trans (begins : db.Journal before dispatches between)
    (continues : db.Journal between others after) :
    db.Journal before (dispatches ++ others) after := by
  induction begins with
  | nil => exact continues
  | drawn supply _ ih => exact .drawn supply (ih continues)
  | cons first _ ih => exact .cons first (ih continues)

/-- What is executed is handed to the database, and nothing else, in the order of the journal. -/
theorem calls (journal : db.Journal before dispatches after) :
    after.monitor.calls =
      before.monitor.calls ++ (dispatches.filter Dispatch.isExecuted).map Dispatch.call := by
  induction journal with
  | nil => exact (List.append_nil _).symm
  | drawn supply _ ih => exact ih
  | @cons _ _ _ dispatch _ first _ ih =>
      rw [ih, first.calls, List.append_assoc, List.filter_cons]
      cases dispatch.isExecuted <;> rfl

/-- If counts are those of some statements, then afterwards they are those of what was executed
besides. -/
theorem tally {earlier : List Dispatch} (journal : db.Journal before dispatches after)
    (once : db.leaves.countP Hook.counts = 1) (tally : before.monitor.statistics.Tally earlier) :
    after.monitor.statistics.Tally (earlier ++ dispatches.filter Dispatch.isExecuted) := by
  induction journal generalizing earlier with
  | nil =>
      rw [List.filter_nil, List.append_nil]
      exact tally
  | drawn supply _ ih => exact ih tally
  | @cons _ _ _ dispatch _ first _ ih =>
      have counted := first.statistics once
      rw [List.filter_cons]
      cases executed : dispatch.isExecuted with
      | false =>
          rw [executed] at counted
          exact ih (counted ▸ tally)
      | true =>
          rw [executed] at counted
          rw [if_pos rfl, List.append_cons]
          exact ih (counted ▸ tally.add dispatch 0)

end Journal

/-- How a journal ends: all of its statements were executed, or all but the last, and the refusal of
the last, with its text, is the result. -/
inductive Concludes {α : Type} : List Dispatch → Result α → Prop where
  | executed {dispatches : List Dispatch} {result : Result α}
      (all : ∀ dispatch ∈ dispatches, dispatch.isExecuted = true) :
      Concludes dispatches result
  | refused {earlier : List Dispatch} {last : Dispatch} {reason : String}
      (before : ∀ dispatch ∈ earlier, dispatch.isExecuted = true)
      (fate : last.fate = .refused reason) :
      Concludes (earlier ++ [last])
        (.error (.execution (.aborted reason) (some last.statement.text)))

namespace Concludes

variable {α β : Type} {dispatches others : List Dispatch}

/-- A computation that succeeded had all of its statements executed. -/
theorem executed_of_ok {value : α} (concludes : Concludes dispatches (.ok value)) :
    ∀ dispatch ∈ dispatches, dispatch.isExecuted = true := by
  cases concludes with
  | executed all => exact all

theorem of_error {error : Error} (concludes : Concludes dispatches (.error error : Result α)) :
    Concludes dispatches (.error error : Result β) := by
  cases concludes with
  | executed all => exact .executed all
  | refused before fate => exact .refused before fate

theorem append {result : Result α}
    (first : ∀ dispatch ∈ dispatches, dispatch.isExecuted = true)
    (concludes : Concludes others result) : Concludes (dispatches ++ others) result := by
  cases concludes with
  | executed all => exact .executed (List.forall_mem_append.2 ⟨first, all⟩)
  | refused before fate =>
      rw [← List.append_assoc]
      exact .refused (List.forall_mem_append.2 ⟨first, before⟩) fate

end Concludes

/-- In every world a computation leads to a journal that accounts for what it does, and ends as its
result says. -/
def Journals {α : Type} (db : Database σ) (session : Session σ α) : Prop :=
  ∀ world, ∃ dispatches, db.Journal world dispatches (session world).2 ∧
    Concludes dispatches (session world).1

namespace Journals

variable {α β : Type} {db : Database σ} {session : Session σ α} {next : α → Session σ β}

/-- A result that is at hand needs no statement. -/
theorem result (result : Result α) : db.Journals (liftM result : Session σ α) :=
  fun world => ⟨[], .nil world, .executed (List.forall_mem_nil _)⟩

theorem pure (value : α) : db.Journals (Pure.pure value : Session σ α) := result (.ok value)

theorem throw (error : Error) : db.Journals (throw error : Session σ α) := result (.error error)

theorem draw (computation : Draw α) : db.Journals (Session.draw computation) :=
  fun _ => ⟨[], .drawn _ (.nil _), .executed (List.forall_mem_nil _)⟩

/-- Running a statement is a journal of its own. -/
theorem run (db : Database σ) (tag : String) (entity : Option String) (statement : Statement)
    (grouped : Bool) : db.Journals (db.run tag entity statement grouped) := by
  intro world
  obtain ⟨fate, passes, result⟩ := db.run_passes tag entity statement grouped world
  refine ⟨[_], .cons passes (.nil _), ?_⟩
  rw [result]
  cases fate with
  | refused reason => exact .refused (List.forall_mem_nil _) rfl
  | executed answer => exact .executed (List.forall_mem_singleton.2 rfl)

theorem bind (begins : db.Journals session) (continues : ∀ value, db.Journals (next value)) :
    db.Journals (session >>= next) := by
  intro world
  obtain ⟨dispatches, journal, concludes⟩ := begins world
  rw [Session.bind_apply]
  generalize session world = ran at journal concludes ⊢
  obtain ⟨error | value, after⟩ := ran
  · exact ⟨dispatches, journal, concludes.of_error⟩
  · obtain ⟨others, following, ends⟩ := continues value after
    exact ⟨dispatches ++ others, journal.trans following, ends.append concludes.executed_of_ok⟩

theorem result_bind {result : Result α} (continues : ∀ value, db.Journals (next value)) :
    db.Journals ((liftM result : Session σ α) >>= next) :=
  bind (Journals.result result) continues

theorem query_bind {result : Except QueryFault α} (continues : ∀ value, db.Journals (next value)) :
    db.Journals ((liftM result : Session σ α) >>= next) :=
  bind (Journals.result (result.mapError .query)) continues

theorem definition_bind {result : Except DefinitionFault α}
    (continues : ∀ value, db.Journals (next value)) :
    db.Journals ((liftM result : Session σ α) >>= next) :=
  bind (Journals.result (result.mapError .definition)) continues

end Journals

end Database

end EntityMapper
