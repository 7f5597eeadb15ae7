import EntityMapper.Reference.Column

set_option autoImplicit false

/-! Keys that name the column they are made from. -/

namespace EntityMapper.ColumnRef

/-- Columns whose key names them: a name by itself must not be taken for a qualified one, and the
parts of a qualified name are joined by the only point in it. -/
def Portable : ColumnRef → Prop
  | ⟨none, column⟩ => ¬ marker <+: column.toList
  | ⟨some table, column⟩ => (table ≠ "" ∧ '.' ∉ table.toList) ∧ column ≠ "" ∧ '.' ∉ column.toList

instance : DecidablePred Portable
  | ⟨none, column⟩ => inferInstanceAs (Decidable (¬ marker <+: column.toList))
  | ⟨some table, column⟩ => inferInstanceAs
      (Decidable ((table ≠ "" ∧ '.' ∉ table.toList) ∧ column ≠ "" ∧ '.' ∉ column.toList))

theorem afterMarker?_of_unmarked {letters : List Char} (unmarked : ¬ marker <+: letters) :
    afterMarker? letters = none := by
  unfold afterMarker?
  split
  · rename_i rest
    exact absurd (List.prefix_append marker rest) unmarked
  · rfl

theorem segments_of_pointless {letters : List Char} (pointless : '.' ∉ letters) :
    segments letters = [letters] := by
  induction letters with
  | nil => rfl
  | cons letter rest ih =>
      rw [List.mem_cons, not_or] at pointless
      rw [segments, if_neg (Ne.symm pointless.1), ih pointless.2]

theorem segments_append_point {letters : List Char} (pointless : '.' ∉ letters)
    (rest : List Char) : segments (letters ++ '.' :: rest) = letters :: segments rest := by
  induction letters with
  | nil => rw [List.nil_append, segments, if_pos rfl]
  | cons letter others ih =>
      rw [List.mem_cons, not_or] at pointless
      rw [List.cons_append, segments, if_neg (Ne.symm pointless.1), ih pointless.2]

theorem segments_ne_nil (letters : List Char) : segments letters ≠ [] := by
  induction letters with
  | nil => exact List.cons_ne_nil _ _
  | cons letter rest ih =>
      rw [segments]
      split
      · exact List.cons_ne_nil _ _
      · split <;> exact List.cons_ne_nil _ _

/-- Nothing but the points between is missing in the segments. -/
theorem intercalate_segments (letters : List Char) :
    List.intercalate ['.'] (segments letters) = letters := by
  induction letters with
  | nil => rfl
  | cons letter rest ih =>
      rw [segments]
      cases parts : segments rest with
      | nil => exact absurd parts (segments_ne_nil rest)
      | cons segment others =>
          rw [parts] at ih
          split
          · rename_i point
            rw [List.intercalate_cons_cons, ih, point]
            rfl
          · cases others with
            | nil =>
                rw [List.intercalate_singleton] at ih ⊢
                rw [ih]
            | cons second more =>
                rw [List.intercalate_cons_cons] at ih ⊢
                rw [← ih]
                rfl

theorem pointless_of_mem_segments (letters : List Char) :
    ∀ segment ∈ segments letters, '.' ∉ segment := by
  induction letters with
  | nil => exact List.forall_mem_singleton.2 List.not_mem_nil
  | cons letter rest ih =>
      rw [segments]
      split
      · exact List.forall_mem_cons.2 ⟨List.not_mem_nil, ih⟩
      · rename_i other
        cases parts : segments rest with
        | nil => exact absurd parts (segments_ne_nil rest)
        | cons segment others =>
            rw [parts, List.forall_mem_cons] at ih
            refine List.forall_mem_cons.2 ⟨fun inside => ?_, ih.2⟩
            rcases List.mem_cons.1 inside with here | later
            · exact other here.symm
            · exact ih.1 later

theorem toList_key_qualified (table column : String) :
    (key (qualified table column)).toList = marker ++ (table.toList ++ '.' :: column.toList) := by
  simp [key, qualified, marker]

/-- The key of a qualified column is no unmarked name. -/
theorem key_ne {column : ColumnRef} {name : String} (different : column ≠ bare name)
    (unmarked : ¬ marker <+: name.toList) : column.key ≠ name := by
  obtain ⟨table, spelling⟩ := column
  cases table with
  | none => exact fun same => different (congrArg bare same)
  | some table =>
      rintro rfl
      apply unmarked
      rw [← qualified, toList_key_qualified]
      exact List.prefix_append _ _

/-- The key of a portable column names it. -/
theorem ofKey_key {column : ColumnRef} (portable : column.Portable) :
    ofKey column.key = .ok column := by
  obtain ⟨table, name⟩ := column
  cases table with
  | none => rw [key, ofKey, afterMarker?_of_unmarked portable, bare]
  | some table =>
      obtain ⟨⟨tabled, first⟩, named, second⟩ := portable
      have parts : segments (table.toList ++ '.' :: name.toList) = [table.toList, name.toList] := by
        rw [segments_append_point first, segments_of_pointless second]
      have occupied : (table.toList.isEmpty || name.toList.isEmpty) = false := by
        simp [tabled, named]
      rw [← qualified, ofKey, toList_key_qualified, marker]
      simp only [List.cons_append, List.nil_append, afterMarker?, parts, occupied,
        Bool.false_eq_true, if_false, String.ofList_toList]

theorem afterMarker?_eq_some {letters rest : List Char}
    (marked : afterMarker? letters = some rest) : letters = marker ++ rest := by
  unfold afterMarker? at marked
  split at marked
  · rw [← Option.some.inj marked]
    rfl
  · cases marked

/-- A column that is named by a key is portable and has this key. -/
theorem key_of_ofKey {key : String} {column : ColumnRef} (named : ofKey key = .ok column) :
    column.key = key ∧ column.Portable := by
  unfold ofKey at named
  split at named
  · rename_i unmarked
    obtain rfl := Except.ok.inj named
    refine ⟨rfl, fun marked => ?_⟩
    obtain ⟨rest, written⟩ := marked
    rw [← written] at unmarked
    cases unmarked
  · rename_i rest marked
    split at named
    · rename_i table name parts
      split at named
      · cases named
      · rename_i occupied
        obtain rfl := Except.ok.inj named
        have whole := intercalate_segments rest
        have pointless := pointless_of_mem_segments rest
        rw [parts] at whole pointless
        rw [Bool.or_eq_true, not_or, List.isEmpty_iff, List.isEmpty_iff] at occupied
        refine ⟨String.toList_injective ?_, ⟨?_, ?_⟩, ?_, ?_⟩
        · rw [toList_key_qualified, String.toList_ofList, String.toList_ofList,
            afterMarker?_eq_some marked, ← whole, List.intercalate_cons_cons,
            List.intercalate_singleton, List.append_assoc, List.singleton_append]
        · exact fun blank => occupied.1 (String.ofList_eq_empty_iff.1 blank)
        · rw [String.toList_ofList]
          exact pointless table (List.mem_cons_self ..)
        · exact fun blank => occupied.2 (String.ofList_eq_empty_iff.1 blank)
        · rw [String.toList_ofList]
          exact pointless name (List.mem_cons_of_mem _ (List.mem_cons_self ..))
    · cases named

/-- Keys and columns are inverse to each other: a column named by a key has this key, and exactly
the portable columns are named by theirs. -/
theorem keys_name_columns :
    (∀ (key : String) (column : ColumnRef), ofKey key = .ok column → column.key = key) ∧
      ∀ column : ColumnRef, ofKey column.key = .ok column ↔ column.Portable := by
  refine ⟨fun key column named => (key_of_ofKey named).1, fun column => ⟨fun named => ?_, ofKey_key⟩⟩
  exact (key_of_ofKey named).2

theorem keys_name_columns_users :
    ofKey "$t.users.lastName" = .ok (qualified "users" "lastName") ∧
      (qualified "users" "lastName").key = "$t.users.lastName" :=
  have named : ofKey "$t.users.lastName" = .ok (qualified "users" "lastName") := rfl
  ⟨named, keys_name_columns.1 _ _ named⟩

/-- A table with a point in its name, and a name that looks like a key. -/
example : ¬ (qualified "app.users" "id").Portable ∧ ¬ (bare "$t.users").Portable ∧
    (bare "users.id").Portable := by decide

end EntityMapper.ColumnRef
