import EntityMapper.Proofs.Migration.Noting

set_option autoImplicit false

/-! What comes of migrations over time: however the calls that apply and undo them follow one
another, and whatever steps fail, the table records the first ones of the list, those whose last
successful step was up. -/

namespace EntityMapper.Migration

variable {σ : Type}

/-- A step of a migration that fails is logged, and fails all the same. -/
theorem attempt_cases (name : String) (step : Session σ Unit) (world : World σ) :
    (∃ error next, attempt name step world = (.error error, next) ∧
      next.database = (step world).2.database ∧ (step world).1.isOk = false) ∨
    ∃ next, attempt name step world = (.ok (), next) ∧
      next.database = (step world).2.database ∧ (step world).1.isOk = true := by
  rw [attempt, Session.tryCatch_apply]
  generalize step world = ran
  obtain ⟨error | _, after⟩ := ran
  · exact Or.inl ⟨error, _, rfl, rfl, rfl⟩
  · exact Or.inr ⟨after, rfl, rfl, rfl⟩

theorem info_apply (fields : List (String × LogValue)) (message : String) (world : World σ) :
    ∃ next, info fields message world = (.ok (), next) ∧ next.database = world.database :=
  ⟨_, rfl, rfl⟩

/-- The states of a database tell the rows of a faithful table and the steps taken so far, to which
each migration adds its own. -/
structure Recording (db : Database σ) (ledger : σ → Multiset Recorded → List Step → Prop)
    (migrations : List (Migration σ)) : Prop where
  faithful : ∀ steps, Faithful db fun state rows => ledger state rows steps
  ups : ∀ migration ∈ migrations, ∀ (world : World σ) rows steps,
    ledger world.database rows steps → ledger (migration.up db world).2.database rows
      (steps ++ [⟨migration.name, .up, (migration.up db world).1.isOk⟩])
  downs : ∀ migration ∈ migrations, ∀ (world : World σ) rows steps,
    ledger world.database rows steps → ledger (migration.down db world).2.database rows
      (steps ++ [⟨migration.name, .down, (migration.down db world).1.isOk⟩])

/-- What a rollback does where some names are applied: nothing if there are none, else it takes the
last of them down, and removes its row if that succeeds. -/
inductive Undoes (applied : List String) (rows : Multiset Recorded) :
    List Step → Multiset Recorded → Prop where
  | nothing : applied = [] → Undoes applied rows [] rows
  | failed {earlier : List String} {name : String} :
      applied = earlier ++ [name] → Undoes applied rows [⟨name, .down, false⟩] rows
  | succeeded {earlier : List String} {row : Recorded} {left : Multiset Recorded} :
      applied = earlier ++ [row.name] → rows = row ::ₘ left →
        Undoes applied rows [⟨row.name, .down, true⟩] left

/-- In a world these names are applied, in this order. -/
def Stands (ledger : σ → Multiset Recorded → List Step → Prop) (applied : List String)
    (world : World σ) : Prop :=
  ∃ rows steps, ledger world.database rows steps ∧ Agree applied rows steps

namespace Recording

variable {db : Database σ} {ledger : σ → Multiset Recorded → List Step → Prop}
  {migrations : List (Migration σ)} {migration : Migration σ} {world : World σ}
  {rows : Multiset Recorded} {steps : List Step} {applied : List String}

/-- A lookup finds the row of a name if it is applied, and nothing if not. -/
theorem record? (recording : Recording db ledger migrations)
    (held : ledger world.database rows steps) (agree : Agree applied rows steps) (name : String) :
    (∃ next, Migration.record? db name world = (.ok none, next) ∧
      ledger next.database rows steps ∧ name ∉ applied) ∨
    ∃ record row next, Migration.record? db name world = (.ok (some record), next) ∧
      ledger next.database rows steps ∧ name ∈ applied ∧ row ∈ rows ∧ row.name = name ∧
      record.get? keyColumn = some row.id := by
  obtain ⟨found, next, looked, kept, shown⟩ := (recording.faithful steps).record? held name
  rw [agree.mem_iff]
  cases found with
  | none => exact Or.inl ⟨next, looked, kept, fun ⟨row, present, same⟩ => shown row present same⟩
  | some record =>
      obtain ⟨row, present, same, keyed⟩ := shown
      exact Or.inr ⟨record, row, next, looked, kept, ⟨row, present, same⟩, present, same, keyed⟩

/-- A migration whose step up succeeds is recorded; otherwise nothing is. -/
theorem apply (recording : Recording db ledger migrations) (member : migration ∈ migrations)
    (held : ledger world.database rows steps) :
    (∃ error next, Migration.apply db migration world = (.error error, next) ∧
      ledger next.database rows (steps ++ [⟨migration.name, .up, false⟩])) ∨
    ∃ next id, Migration.apply db migration world = (.ok (), next) ∧ id.isNull = false ∧
      (∀ row ∈ rows, row.id ≠ id) ∧
      ledger next.database (⟨id, migration.name⟩ ::ₘ rows)
        (steps ++ [⟨migration.name, .up, true⟩]) := by
  have kept := recording.ups migration member world rows steps held
  rcases attempt_cases migration.name (migration.up db) world with
    ⟨error, next, ran, same, failed⟩ | ⟨between, ran, same, succeeded⟩
  · rw [← same, failed] at kept
    exact Or.inl ⟨error, next, Session.bind_of_error ran, kept⟩
  · rw [← same, succeeded] at kept
    obtain ⟨response, next, id, inserted, known, fresh, recorded⟩ :=
      (recording.faithful _).insertInto kept migration.name between.supply.now
    have timed : (currentTime : Session σ DateTime) between =
        (.ok between.supply.now, between) := rfl
    exact Or.inr ⟨_, id, (Session.bind_of_ok ran).trans
      ((Session.bind_of_ok timed).trans (Session.bind_of_ok inserted)), known, fresh, recorded⟩

/-- A recorded migration whose step down succeeds is no longer recorded; otherwise it still is. -/
theorem undo (recording : Recording db ledger migrations) (member : migration ∈ migrations)
    {row : Recorded} (identified : Identified (row ::ₘ rows)) {record : Record}
    (found : record.get? keyColumn = some row.id)
    (held : ledger world.database (row ::ₘ rows) steps) :
    (∃ error next, Migration.undo db migration record world = (.error error, next) ∧
      ledger next.database (row ::ₘ rows) (steps ++ [⟨migration.name, .down, false⟩])) ∨
    ∃ next, Migration.undo db migration record world = (.ok (), next) ∧
      ledger next.database rows (steps ++ [⟨migration.name, .down, true⟩]) := by
  have kept := recording.downs migration member world (row ::ₘ rows) steps held
  rcases attempt_cases migration.name (migration.down db) world with
    ⟨error, next, ran, same, failed⟩ | ⟨between, ran, same, succeeded⟩
  · rw [← same, failed] at kept
    exact Or.inl ⟨error, next, Session.bind_of_error ran, kept⟩
  · obtain ⟨told, logged, unchanged⟩ := info_apply [("migration", .text migration.name)]
      ("Migration '" ++ migration.name ++ "' rollbacked successfully!") between
    rw [← same, ← unchanged, succeeded] at kept
    obtain ⟨affected, next, deleted, left⟩ :=
      (recording.faithful _).deleteWhere identified kept found migration.name
    exact Or.inr ⟨next, (Session.bind_of_ok ran).trans ((Session.bind_of_ok logged).trans
      (Session.bind_of_ok deleted)), left⟩

/-- Applying what is not recorded goes on where the records end, and comes to the end of the list
unless it fails. -/
theorem applyAll (recording : Recording db ledger migrations) {todo : List (Migration σ)}
    (members : ∀ migration ∈ todo, migration ∈ migrations) {done begun : List String}
    (distinct : (done ++ todo.map Migration.name).Nodup)
    (started : begun <+: todo.map Migration.name)
    (stands : Stands ledger (done ++ begun) world) :
    ∃ reached, reached <+: todo.map Migration.name ∧
      Stands ledger (done ++ reached) (Migration.applyAll db todo world).2 ∧
      ((Migration.applyAll db todo world).1 = .ok () → reached = todo.map Migration.name) := by
  induction todo generalizing world done begun with
  | nil =>
      obtain rfl := List.prefix_nil.1 started
      exact ⟨[], List.prefix_rfl, stands, fun _ => rfl⟩
  | cons migration rest ih =>
      have member := members migration List.mem_cons_self
      have others : ∀ other ∈ rest, other ∈ migrations :=
        fun other later => members other (List.mem_cons_of_mem _ later)
      rw [List.map_cons, List.append_cons] at distinct
      -- Once the first one is applied, all is as with the rest of the list.
      have onward {after : World σ} {begun : List String}
          (ran : Migration.applyAll db (migration :: rest) world =
            Migration.applyAll db rest after)
          (started : begun <+: rest.map Migration.name)
          (stands : Stands ledger (done ++ [migration.name] ++ begun) after) :
          ∃ reached, reached <+: (migration :: rest).map Migration.name ∧
            Stands ledger (done ++ reached) (Migration.applyAll db (migration :: rest) world).2 ∧
            ((Migration.applyAll db (migration :: rest) world).1 = .ok () →
              reached = (migration :: rest).map Migration.name) := by
        obtain ⟨reached, begins, standing, complete⟩ := ih others distinct started stands
        rw [← List.append_cons] at standing
        rw [ran]
        exact ⟨migration.name :: reached, List.cons_prefix_cons.2 ⟨rfl, begins⟩, standing,
          fun ended => congrArg (migration.name :: ·) (complete ended)⟩
      obtain ⟨rows, steps, held, agree⟩ := stands
      rcases recording.record? held agree migration.name with
        ⟨next, looked, kept, absent⟩ | ⟨record, -, next, looked, kept, present, -⟩
      · obtain rfl : begun = [] := by
          cases begun with
          | nil => rfl
          | cons name begun =>
              obtain rfl := (List.cons_prefix_cons.1 started).1
              exact absurd (List.mem_append_right _ List.mem_cons_self) absent
        rw [List.append_nil] at agree absent
        rcases recording.apply member kept with
          ⟨error, last, ran, left⟩ | ⟨after, id, ran, known, fresh, left⟩
        · have failed : Migration.applyAll db (migration :: rest) world = (.error error, last) :=
            (Session.bind_of_ok looked).trans (Session.bind_of_error ran)
          rw [failed]
          refine ⟨[], List.nil_prefix, ⟨rows, _, left, ?_⟩, nofun⟩
          rw [List.append_nil]
          exact agree.fails migration.name .up
        · refine onward ((Session.bind_of_ok looked).trans (Session.bind_of_ok ran))
            List.nil_prefix ⟨_, _, left, ?_⟩
          rw [List.append_nil]
          exact agree.applies ⟨id, migration.name⟩ known fresh absent
      · cases begun with
        | nil =>
            rw [List.append_nil] at present
            exact absurd rfl ((List.nodup_append.1 (List.nodup_append.1 distinct).1).2.2 _ present _
              List.mem_cons_self)
        | cons name begun =>
            obtain ⟨rfl, begins⟩ := List.cons_prefix_cons.1 started
            refine onward (Session.bind_of_ok looked) begins ⟨rows, steps, kept, ?_⟩
            rw [← List.append_cons]
            exact agree

/-- Undoing looks for the last name that is applied from the end of the list on. -/
theorem undoFirst (recording : Recording db ledger migrations) {todo : List (Migration σ)}
    (members : ∀ migration ∈ todo, migration ∈ migrations)
    (distinct : (todo.reverse.map Migration.name).Nodup)
    (begun : applied <+: todo.reverse.map Migration.name)
    (held : ledger world.database rows steps) (agree : Agree applied rows steps) :
    ∃ taken left, Undoes applied rows taken left ∧
      ledger (Migration.undoFirst db todo world).2.database left (steps ++ taken) ∧
      ∃ remaining, remaining <+: applied ∧ Agree remaining left (steps ++ taken) := by
  induction todo generalizing world with
  | nil =>
      refine ⟨[], rows, .nothing (List.prefix_nil.1 begun), ?_, applied, List.prefix_rfl, ?_⟩
      · rw [List.append_nil]
        exact held
      · rw [List.append_nil]
        exact agree
  | cons migration rest ih =>
      have member := members migration List.mem_cons_self
      have others : ∀ other ∈ rest, other ∈ migrations :=
        fun other later => members other (List.mem_cons_of_mem _ later)
      rw [List.reverse_cons, List.map_append] at distinct begun
      rcases recording.record? held agree migration.name with
        ⟨next, looked, kept, absent⟩ |
        ⟨record, row, next, looked, kept, recorded, present, same, keyed⟩
      · have continued : Migration.undoFirst db (migration :: rest) world =
            Migration.undoFirst db rest next := Session.bind_of_ok looked
        have earlier : applied <+: rest.reverse.map Migration.name :=
          (List.prefix_concat_iff.1 begun).resolve_left fun whole =>
            absent (whole ▸ List.mem_append_right _ List.mem_cons_self)
        rw [continued]
        exact ih others (List.nodup_append.1 distinct).1 earlier kept
      · have once : migration.name ∉ rest.reverse.map Migration.name := fun earlier =>
          (List.nodup_append.1 distinct).2.2 _ earlier _ List.mem_cons_self rfl
        obtain rfl := (List.prefix_concat_iff.1 begun).resolve_right fun earlier =>
          once (earlier.subset recorded)
        obtain ⟨left, rfl⟩ := Multiset.exists_cons_of_mem present
        rcases recording.undo member agree.identified keyed kept with
          ⟨error, last, ran, still⟩ | ⟨after, ran, gone⟩
        · have failed : Migration.undoFirst db (migration :: rest) world = (.error error, last) :=
            (Session.bind_of_ok looked).trans (Session.bind_of_error ran)
          rw [failed]
          exact ⟨_, _, .failed rfl, still, _, List.prefix_rfl, agree.fails migration.name .down⟩
        · obtain ⟨told, logged, unchanged⟩ := info_apply [] "Done" after
          have succeeded : Migration.undoFirst db (migration :: rest) world = (.ok (), told) :=
            (Session.bind_of_ok looked).trans ((Session.bind_of_ok ran).trans logged)
          rw [← same] at gone once
          rw [succeeded]
          refine ⟨_, left, .succeeded (by rw [same]) rfl, unchanged ▸ gone, _,
            List.prefix_append _ _, Agree.undoes ?_ once⟩
          rw [same]
          exact agree

end Recording

end EntityMapper.Migration
