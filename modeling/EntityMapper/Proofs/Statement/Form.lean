import EntityMapper.Proofs.Plan.Veil

set_option autoImplicit false

/-! The form of statements: whatever the values of a description are, its statement has the same
text and the same number of parameters, or it fails for the same reason. -/

namespace EntityMapper

open Outcome

namespace Request

/-- What is left of a description without its values: those that are written to columns or that
columns have by default, the operands of the filter and the page. All else stays, as the operators
of the filter and the lengths of its lists. -/
def veiled : Request → Request
  | .find table filter options => .find table (Filter.veiled filter) options.veiled
  | .findOne table filter options => .findOne table (Filter.veiled filter) options.veiled
  | .count table filter options => .count table (Filter.veiled filter) options
  | .insert table values => .insert table (veiledColumns values)
  | .update table values filter => .update table (veiledColumns values) (Filter.veiled filter)
  | .delete table filter => .delete table (Filter.veiled filter)
  | .findEntities registry config entity filter options =>
      .findEntities registry.veiled config.veiled entity (Filter.veiled filter) options.veiled
  | .findEntity registry config entity filter options =>
      .findEntity registry.veiled config.veiled entity (Filter.veiled filter) options.veiled
  | .countEntities registry entity filter =>
      .countEntities registry.veiled entity (Filter.veiled filter)
  | .createTable table ifNotExists columns =>
      .createTable table ifNotExists (columns.map TableColumn.veiled)
  | .alterTable table changes => .alterTable table (changes.map TableChange.veiled)

/-- A request is resolved to a draft, of which the statement is made. -/
theorem compile_eq (request : Request) :
    request.compile =
      (request.draft?.mapError .definition >>= fun draft => draft.compile.mapError .query) := by
  have entities (registry : Registry) (config : Config) (entity : String) (filter : Filter)
      (options : EntityOptions) (single : Bool) :
      (EntityQuery.build registry config entity filter options single).map EntityQuery.statement =
        ((EntityQuery.draft? registry config entity filter options single).mapError .definition >>=
          fun draft => draft.compile.mapError .query) := by
    rw [EntityQuery.build, EntityQuery.draft?]
    cases registry.find entity with
    | error fault => rfl
    | ok root =>
        change Except.map EntityQuery.statement
            (liftM (Resolution.ofPopulates registry root options.populate) >>= _) =
          ((Resolution.ofPopulates registry root options.populate >>= _).mapError _ >>= _)
        cases Resolution.ofPopulates registry root options.populate with
        | error fault => rfl
        | ok resolution =>
            let fragment := EntityQuery.fragment config resolution filter options single
            change Except.map EntityQuery.statement (liftM fragment.statement >>= _) =
              fragment.statement.mapError _
            cases fragment.statement <;> rfl
  cases request with
  | findEntities registry config entity filter options => exact entities _ _ _ _ _ _
  | findEntity registry config entity filter options => exact entities _ _ _ _ _ _
  | countEntities registry entity filter =>
      rw [compile, draft?, EntityQuery.count]
      cases registry.find entity with
      | error fault => rfl
      | ok schema => rfl
  | _ => rfl

/-- A request without its values comes to the draft without them. -/
theorem draft?_veiled (request : Request) :
    request.veiled.draft? = request.draft?.map Draft.veiled := by
  cases request with
  | findEntities registry config entity filter options =>
      exact EntityQuery.draft?_veiled registry config entity filter options false
  | findEntity registry config entity filter options =>
      exact EntityQuery.draft?_veiled registry config entity filter options true
  | countEntities registry entity filter =>
      rw [veiled, draft?, draft?, Registry.find_veiled]
      cases registry.find entity with
      | error fault => rfl
      | ok schema =>
          exact congrArg
            (fun filter => Except.ok (Draft.count (.named schema.table) filter default))
            (EntityQuery.storageFilter_veiled schema filter)
  | _ => rfl

theorem form_compile (request : Request) :
    request.veiled.compile.map Statement.form = request.compile.map Statement.form := by
  rw [compile_eq, compile_eq, draft?_veiled]
  cases request.draft? with
  | error fault => rfl
  | ok draft =>
      change (draft.veiled.compile.mapError Error.query).map Statement.form =
        (draft.compile.mapError Error.query).map Statement.form
      rw [map_mapError, map_mapError, draft.form_compile]

/-- No value has a say in the text of a statement. Two descriptions that agree but for their values
both fail, for the same reason, or both give statements, with the same text and as many
parameters. -/
theorem values_keep_text {first second : Request} (alike : first.veiled = second.veiled) :
    (∃ error, first.compile = .error error ∧ second.compile = .error error) ∨
    (∃ one other, first.compile = .ok one ∧ second.compile = .ok other ∧
      one.text = other.text ∧ one.params.length = other.params.length) := by
  have same : first.compile.map Statement.form = second.compile.map Statement.form := by
    rw [← form_compile first, alike, form_compile]
  cases one : first.compile with
  | error error =>
      rw [one] at same
      cases other : second.compile with
      | error reason =>
          rw [other] at same
          cases same
          exact Or.inl ⟨error, rfl, rfl⟩
      | ok statement =>
          rw [other] at same
          cases same
  | ok statement =>
      rw [one] at same
      cases other : second.compile with
      | error reason =>
          rw [other] at same
          cases same
      | ok changed =>
          rw [other] at same
          have forms : statement.form = changed.form := Except.ok.inj same
          exact Or.inr
            ⟨statement, changed, rfl, rfl, congrArg Prod.fst forms, congrArg Prod.snd forms⟩

/-- Two finds with other values, one of which reads like a condition, and with other pages. -/
theorem values_keep_text_find :
    let first : Request := .find (.named "accounts")
      [.disjunction [[.column (.bare "id") (.inList [.int 1, .int 2])],
        [.column (.bare "email") (.like (.text "%@b.c"))]]] default
    let second : Request := .find (.named "accounts")
      [.disjunction [[.column (.bare "id") (.inList [.null, .text "?) OR (1 = 1"])],
        [.column (.bare "email") (.like .null)]]]
      { (default : FindOptions) with page := some ⟨3, 0⟩ }
    let text := "SELECT * FROM \x60accounts\x60 WHERE (\x60id\x60 IN (?, ?)) OR " ++
      "(\x60email\x60 LIKE ?) LIMIT ? OFFSET ?;"
    first.veiled = second.veiled ∧
      ∃ one other, first.compile = .ok one ∧ second.compile = .ok other ∧
        one.text = text ∧ other.text = text ∧ one.params.length = other.params.length := by
  intro first second text
  have alike : first.veiled = second.veiled := rfl
  have success : first.compile = .ok ⟨text,
      [.int 1, .int 2, .text "%@b.c", .int 1000, .int 0]⟩ := rfl
  refine ⟨alike, ?_⟩
  rcases values_keep_text alike with ⟨error, failed, -⟩ | ⟨one, other, here, there, texts, counts⟩
  · cases success.symm.trans failed
  · obtain rfl := Except.ok.inj (success.symm.trans here)
    exact ⟨_, other, here, there, rfl, texts.symm, counts⟩

end Request

end EntityMapper
