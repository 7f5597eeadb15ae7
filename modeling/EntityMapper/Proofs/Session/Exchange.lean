import EntityMapper.Proofs.Session.Calls

set_option autoImplicit false

/-! What a session sends and what the database answers, and how this and the result of a computation
follow from those of its steps, for every database and all hooks. -/

namespace EntityMapper

/-- A statement that the database was handed, and its answer. Rows are not split by tables. -/
structure Exchange where
  statement : Statement
  answer : Result Response

/-- The answers to statements that are handed over in turn, and the state that is left. -/
def Executor.replay {σ : Type} (executor : Executor σ) :
    List Statement → σ → List Exchange × σ
  | [], state => ([], state)
  | statement :: rest, state =>
      let (answer, next) := executor statement false state
      let (others, last) := replay executor rest next
      (⟨statement, answer⟩ :: others, last)

theorem Executor.replay_append {σ : Type} (executor : Executor σ) (first second : List Statement)
    (state : σ) :
    executor.replay (first ++ second) state =
      ((executor.replay first state).1 ++
          (executor.replay second (executor.replay first state).2).1,
        (executor.replay second (executor.replay first state).2).2) := by
  induction first generalizing state with
  | nil => rfl
  | cons statement rest ih => simp only [List.cons_append, replay, ih]

namespace Database

variable {σ : Type}

/-- Between two worlds the database was handed the statements of some exchanges, no others, and
gave the answers. -/
structure Exchanged (db : Database σ) (before : World σ) (exchanges : List Exchange)
    (after : World σ) : Prop where
  calls : after.monitor.calls =
    before.monitor.calls ++ exchanges.map fun exchange => exchange.statement.call false
  answers : db.executor.replay (exchanges.map Exchange.statement) before.database =
    (exchanges, after.database)

namespace Exchanged

variable {db : Database σ} {before between after : World σ}

theorem nothing (db : Database σ) (world : World σ) : db.Exchanged world [] world :=
  ⟨(List.append_nil _).symm, rfl⟩

theorem trans {first second : List Exchange} (begins : db.Exchanged before first between)
    (continues : db.Exchanged between second after) :
    db.Exchanged before (first ++ second) after := by
  refine ⟨?_, ?_⟩
  · rw [continues.calls, begins.calls, List.map_append, List.append_assoc]
  · rw [List.map_append, Executor.replay_append, begins.answers, continues.answers]

end Exchanged

/-- In every world a computation leads to exchanges and a result of which something holds. -/
def Meets {α : Type} (db : Database σ) (session : Session σ α)
    (holds : List Exchange → Result α → Prop) : Prop :=
  ∀ world, ∃ exchanges, db.Exchanged world exchanges (session world).2 ∧
    holds exchanges (session world).1

namespace Meets

variable {α β : Type} {db : Database σ} {session : Session σ α} {next : α → Session σ β}
  {holds other : List Exchange → Result α → Prop} {joint : List Exchange → Result β → Prop}

theorem imp (meets : db.Meets session holds)
    (weaker : ∀ exchanges result, holds exchanges result → other exchanges result) :
    db.Meets session other := by
  intro world
  obtain ⟨exchanges, exchanged, held⟩ := meets world
  exact ⟨exchanges, exchanged, weaker _ _ held⟩

theorem pure {value : α} (held : holds [] (.ok value)) :
    db.Meets (Pure.pure value : Session σ α) holds :=
  fun world => ⟨[], .nothing db world, held⟩

theorem throw {error : Error} (held : holds [] (.error error)) :
    db.Meets (throw error : Session σ α) holds :=
  fun world => ⟨[], .nothing db world, held⟩

/-- The exchanges of a computation stand before those of what is done with its value. -/
theorem bind (begins : db.Meets session holds)
    (fails : ∀ exchanges error, holds exchanges (.error error) → joint exchanges (.error error))
    (continues : ∀ exchanges value, holds exchanges (.ok value) →
      db.Meets (next value) fun others result => joint (exchanges ++ others) result) :
    db.Meets (session >>= next) joint := by
  intro world
  obtain ⟨exchanges, exchanged, held⟩ := begins world
  rw [Session.bind_apply]
  generalize session world = ran at exchanged held ⊢
  obtain ⟨error | value, after⟩ := ran
  · exact ⟨exchanges, exchanged, fails _ _ held⟩
  · obtain ⟨others, following, held⟩ := continues _ _ held after
    exact ⟨exchanges ++ others, exchanged.trans following, held⟩

theorem query_bind {result : Except QueryFault α}
    (fails : ∀ fault, result = .error fault → joint [] (.error (.query fault)))
    (continues : ∀ value, result = .ok value → db.Meets (next value) joint) :
    db.Meets ((liftM result : Session σ α) >>= next) joint := by
  intro world
  rw [Session.query_bind]
  cases result with
  | error fault => exact ⟨[], .nothing db world, fails fault rfl⟩
  | ok value => exact continues value rfl world

theorem definition_bind {result : Except DefinitionFault α}
    (fails : ∀ fault, result = .error fault → joint [] (.error (.definition fault)))
    (continues : ∀ value, result = .ok value → db.Meets (next value) joint) :
    db.Meets ((liftM result : Session σ α) >>= next) joint := by
  intro world
  rw [Session.definition_bind]
  cases result with
  | error fault => exact ⟨[], .nothing db world, fails fault rfl⟩
  | ok value => exact continues value rfl world

end Meets

/-- Why no answer comes of a statement that is to be written and run: it cannot be written, a hook
refuses it, or the database fails. Only then it was sent. -/
inductive Fails (written : Except QueryFault Statement) : List Exchange → Error → Prop where
  | unwritten {fault : QueryFault} (failed : written = .error fault) :
      Fails written [] (.query fault)
  | refused {statement : Statement} (success : written = .ok statement) (reason : String) :
      Fails written [] (.execution (.aborted reason) (some statement.text))
  | failed {statement : Statement} (success : written = .ok statement) (error : Error) :
      Fails written [⟨statement, .error error⟩] (error.withStatement statement.text)

/-- What was sent is the statement, even if the database fails. -/
theorem Fails.sent {written : Except QueryFault Statement} {exchanges : List Exchange}
    {error : Error} (fails : Fails written exchanges error) :
    ∀ exchange ∈ exchanges, written = .ok exchange.statement := by
  cases fails with
  | unwritten failed => exact List.forall_mem_nil _
  | refused success reason => exact List.forall_mem_nil _
  | failed success error => exact List.forall_mem_singleton.2 success

/-- What comes of a statement that is to be written and run. -/
inductive Performs (written : Except QueryFault Statement) :
    List Exchange → Result Response → Prop where
  | fails {exchanges : List Exchange} {error : Error} (fails : Fails written exchanges error) :
      Performs written exchanges (.error error)
  | answered {statement : Statement} (success : written = .ok statement) (response : Response) :
      Performs written [⟨statement, .ok response⟩] (.ok response)

theorem run_performs (db : Database σ) (tag : String) (entity : Option String)
    (statement : Statement) :
    db.Meets (db.run tag entity statement false) (Performs (.ok statement)) := by
  intro world
  rcases db.run_cases tag entity statement false world with
    ⟨reason, after, ran, quiet⟩ | ⟨after, ran, sent, database⟩
  · rw [ran]
    refine ⟨[], ⟨?_, ?_⟩, .fails (.refused rfl reason)⟩
    · exact quiet.calls.trans (List.append_nil _).symm
    · exact congrArg (Prod.mk []) quiet.database.symm
  · rw [ran]
    refine ⟨[⟨statement, (db.executor statement false world.database).1⟩], ⟨sent, ?_⟩, ?_⟩
    · exact congrArg (Prod.mk _) database.symm
    · generalize (db.executor statement false world.database).1 = answer
      cases answer with
      | error error => exact .fails (.failed rfl error)
      | ok response => exact .answered rfl response

/-- A statement is written and run, and its response is put to use. -/
theorem Meets.run_bind {α : Type} {db : Database σ} {tag : String} {entity : Option String}
    {written : Except QueryFault Statement} {next : Response → Session σ α}
    {joint : List Exchange → Result α → Prop}
    (fails : ∀ exchanges error, Fails written exchanges error → joint exchanges (.error error))
    (continues : ∀ statement response, written = .ok statement →
      db.Meets (next response) fun others result =>
        joint (⟨statement, .ok response⟩ :: others) result) :
    db.Meets (do
      let statement ← written
      let response ← db.run tag entity statement false
      next response) joint := by
  apply Meets.query_bind
  · exact fun fault failed => fails _ _ (.unwritten failed)
  · rintro statement rfl
    apply (db.run_performs tag entity statement).bind
    · intro exchanges error performs
      cases performs with
      | fails reason => exact fails _ _ reason
    · intro exchanges response performs
      cases performs with
      | answered success =>
          obtain rfl := Except.ok.inj success
          exact continues statement response rfl

end Database

end EntityMapper
