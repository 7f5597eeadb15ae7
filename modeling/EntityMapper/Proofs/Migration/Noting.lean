import EntityMapper.Proofs.Migration.Steps

set_option autoImplicit false

/-! Migrations that note the steps they take. Beside the state of the database a list of steps is
kept, which nothing but the migrations themselves can see or change; so they run as they do without
it. -/

namespace EntityMapper

open Migration

variable {σ α β : Type}

/-- The same world, with the steps that were taken so far. -/
def World.noting (world : World σ) (steps : List Step) : World (σ × List Step) :=
  ⟨(world.database, steps), world.monitor, world.supply⟩

/-- The same database, with a list of steps that no statement has to do with. -/
def Database.noting (db : Database σ) : Database (σ × List Step) where
  executor statement grouped state :=
    let (answer, next) := db.executor statement grouped state.1
    (answer, (next, state.2))
  registry := db.registry
  config := db.config
  hook := db.hook

/-- The statements are answered as they are without the list, which stays as it is. -/
theorem Database.Serves.noting {db : Database σ} {tag : String} {statement : Statement}
    {before : σ → Prop} {after : Response → σ → Prop}
    (serves : db.Serves tag statement before after)
    (steps : List Step) :
    db.noting.Serves tag statement (fun state => before state.1 ∧ state.2 = steps)
      fun response next => after response next.1 ∧ next.2 = steps where
  admitted := serves.admitted
  answered state met := by
    obtain ⟨response, next, answered, described⟩ := serves.answered state.1 met.1
    refine ⟨response, (next, state.2), ?_, described, met.2⟩
    rw [Database.noting]
    simp only [answered]

namespace Migration

/-- Runs a step of a migration, and notes whether it succeeded. -/
def note (name : String) (direction : Direction) (step : Session σ Unit) :
    Session (σ × List Step) Unit := fun world =>
  let (result, after) := step ⟨world.database.1, world.monitor, world.supply⟩
  (result, after.noting (world.database.2 ++ [⟨name, direction, result.isOk⟩]))

/-- The same migration, which notes its steps. -/
def noting (db : Database σ) (migration : Migration σ) : Migration (σ × List Step) where
  name := migration.name
  up _ := note migration.name .up (migration.up db)
  down _ := note migration.name .down (migration.down db)

/-- Two sessions do the same, one with notes and one without: whatever was noted before, the steps
that are taken come after it, and all else is as it is without notes. -/
def Notes (noted : Session (σ × List Step) α) (plain : Session σ α) : Prop :=
  ∀ world, ∃ taken, ∀ steps,
    noted (world.noting steps) = ((plain world).1, (plain world).2.noting (steps ++ taken))

namespace Notes

theorem of_quiet {noted : Session (σ × List Step) α} {plain : Session σ α}
    (quiet : ∀ world steps,
      noted (world.noting steps) = ((plain world).1, (plain world).2.noting steps)) :
    Notes noted plain :=
  fun world => ⟨[], fun steps => by rw [quiet, List.append_nil]⟩

theorem pure (value : α) :
    Notes (Pure.pure value : Session (σ × List Step) α) (Pure.pure value : Session σ α) :=
  of_quiet fun _ _ => rfl

theorem throw (error : Error) :
    Notes (throw error : Session (σ × List Step) α) (throw error : Session σ α) :=
  of_quiet fun _ _ => rfl

theorem query (result : Except QueryFault α) :
    Notes (liftM result : Session (σ × List Step) α) (liftM result : Session σ α) :=
  of_quiet fun _ _ => rfl

theorem bind {noted : Session (σ × List Step) α} {plain : Session σ α}
    {notedNext : α → Session (σ × List Step) β} {next : α → Session σ β}
    (begins : Notes noted plain) (continues : ∀ value, Notes (notedNext value) (next value)) :
    Notes (noted >>= notedNext) (plain >>= next) := by
  intro world
  obtain ⟨taken, same⟩ := begins world
  cases ran : plain world with
  | mk result after =>
      rw [ran] at same
      cases result with
      | error error =>
          refine ⟨taken, fun steps => ?_⟩
          rw [Session.bind_of_error (same steps), Session.bind_of_error ran]
      | ok value =>
          obtain ⟨further, continued⟩ := continues value after
          refine ⟨taken ++ further, fun steps => ?_⟩
          rw [Session.bind_of_ok (same steps), Session.bind_of_ok ran, continued,
            List.append_assoc]

theorem tryCatch {noted : Session (σ × List Step) α} {plain : Session σ α}
    {notedHandler : Error → Session (σ × List Step) α} {handler : Error → Session σ α}
    (begins : Notes noted plain) (handled : ∀ error, Notes (notedHandler error) (handler error)) :
    Notes (tryCatch noted notedHandler) (tryCatch plain handler) := by
  intro world
  obtain ⟨taken, same⟩ := begins world
  cases ran : plain world with
  | mk result after =>
      rw [ran] at same
      cases result with
      | error error =>
          obtain ⟨further, continued⟩ := handled error after
          refine ⟨taken ++ further, fun steps => ?_⟩
          rw [Session.tryCatch_apply, same, Session.tryCatch_apply, ran, ← List.append_assoc]
          exact continued (steps ++ taken)
      | ok value =>
          refine ⟨taken, fun steps => ?_⟩
          rw [Session.tryCatch_apply, same, Session.tryCatch_apply, ran]

theorem monitor (change : Monitor → Monitor) :
    Notes (Session.monitor change : Session (σ × List Step) Unit)
      (Session.monitor change : Session σ Unit) :=
  of_quiet fun _ _ => rfl

theorem run (db : Database σ) (tag : String) (entity : Option String) (statement : Statement)
    (grouped : Bool) :
    Notes (db.noting.run tag entity statement grouped) (db.run tag entity statement grouped) := by
  have announced (context : Context) :
      Notes (db.noting.announce context) (db.announce context) := by
    refine of_quiet fun world steps => ?_
    have hooks : db.noting.hooks = db.hooks := rfl
    have monitor : (world.noting steps).monitor = world.monitor := rfl
    rw [Database.announce, Database.announce, hooks, monitor]
    generalize Hook.beforeAll context db.hooks world.monitor = reading
    obtain ⟨_ | reason, told⟩ := reading <;> rfl
  refine bind (announced _) fun _ => bind (of_quiet fun _ _ => rfl) fun _ => ?_
  exact bind (monitor _) fun _ => of_quiet fun _ _ => rfl

/-- A step of a migration is the one thing that is noted. -/
theorem note (name : String) (direction : Direction) (step : Session σ Unit) :
    Notes (Migration.note name direction step) step :=
  fun world => ⟨[⟨name, direction, (step world).1.isOk⟩], fun _ => rfl⟩

theorem attempt (name : String) (direction : Direction) (step : Session σ Unit) :
    Notes (Migration.attempt name (Migration.note name direction step))
      (Migration.attempt name step) :=
  tryCatch (note name direction step) fun error => bind (monitor _) fun _ => throw error

theorem record? (db : Database σ) (name : String) :
    Notes (Migration.record? db.noting name) (Migration.record? db name) :=
  bind (query _) fun statement =>
    bind (run db "find_one" none statement false) fun response => pure response.flatRows.head?

theorem apply (db : Database σ) (migration : Migration σ) :
    Notes (Migration.apply db.noting (migration.noting db)) (Migration.apply db migration) :=
  bind (attempt migration.name .up (migration.up db)) fun _ =>
    bind (of_quiet fun _ _ => rfl) fun _ =>
      bind (bind (query _) fun _ => bind (query _) fun statement =>
        run db "insert" none statement false) fun _ => monitor _

theorem applyAll (db : Database σ) (migrations : List (Migration σ)) :
    Notes (Migration.applyAll db.noting (migrations.map (Migration.noting db)))
      (Migration.applyAll db migrations) := by
  induction migrations with
  | nil => exact monitor _
  | cons migration rest ih =>
      refine bind (record? db migration.name) fun found => ?_
      cases found with
      | none => exact bind (apply db migration) fun _ => ih
      | some _ => exact ih

theorem undo (db : Database σ) (migration : Migration σ) (record : Record) :
    Notes (Migration.undo db.noting (migration.noting db) record)
      (Migration.undo db migration record) :=
  bind (attempt migration.name .down (migration.down db)) fun _ =>
    bind (monitor _) fun _ =>
      bind (bind (query _) fun _ => bind (query _) fun statement =>
        bind (run db "delete" none statement false) fun response => pure response.affected)
        fun _ => pure ()

theorem undoFirst (db : Database σ) (migrations : List (Migration σ)) :
    Notes (Migration.undoFirst db.noting (migrations.map (Migration.noting db)))
      (Migration.undoFirst db migrations) := by
  induction migrations with
  | nil => exact monitor _
  | cons migration rest ih =>
      refine bind (record? db migration.name) fun found => ?_
      cases found with
      | none => exact ih
      | some record => exact bind (undo db migration record) fun _ => monitor _

end Notes

end Migration

end EntityMapper
