import EntityMapper.Plan.Assembly
import EntityMapper.Proofs.Pairing
import EntityMapper.Proofs.Plan.Classes

set_option autoImplicit false

/-! What is drawn from a row: at each level the instance of its slice, whatever defaults are made up
for it. -/

namespace EntityMapper

/-- No column of the row holds NaN. -/
def Row.NanFree (row : Row) : Prop := ∀ entry ∈ row.entries, entry.2.NanFree

namespace Plan

/-- What a row gives at a level: the instance of its slice, or nothing. -/
def DrawnFrom (row : Row) (level : Level) (slot : Option Entity) : Prop :=
  match slice? level row with
  | some record => ∃ supply : Supply,
      slot = some ((Entity.hydrate level.schema record .storage).run supply).1
  | none => slot = none

theorem drawSlices_run (row : Row) (levels : List Level) (supply : Supply) :
    List.Forall₂ (DrawnFrom row) levels ((drawSlices row levels).run supply).1 := by
  induction levels generalizing supply with
  | nil => exact List.Forall₂.nil
  | cons level rest ih =>
      cases found : slice? level row with
      | none =>
          have here : DrawnFrom row level none := by rw [DrawnFrom, found]
          have step : ((drawSlices row (level :: rest)).run supply).1 =
              none :: ((drawSlices row rest).run supply).1 := by
            rw [drawSlices, found]
            rfl
          rw [step]
          exact List.Forall₂.cons here (ih supply)
      | some record =>
          obtain ⟨entity, next, drawn⟩ : ∃ entity next,
              (Entity.hydrate level.schema record .storage).run supply = (entity, next) :=
            ⟨_, _, rfl⟩
          have here : DrawnFrom row level (some entity) := by
            rw [DrawnFrom, found]
            exact ⟨supply, by rw [drawn]⟩
          have step : ((drawSlices row (level :: rest)).run supply).1 =
              some entity :: ((drawSlices row rest).run next).1 := by
            rw [drawSlices, found]
            simp only [StateT.run_bind, StateT.run_map, drawn]
            rfl
          rw [step]
          exact List.Forall₂.cons here (ih next)

theorem nanFree_slice? {level : Level} {row : Row} {record : Record} (free : row.NanFree)
    (found : slice? level row = some record) : record.NanFree := by
  rcases (slice?_eq_some_iff.1 found).1 with named | ⟨-, -, flat⟩
  · exact free _ (Entries.mem_of_get? named)
  · exact free _ (Entries.mem_of_get? flat)

/-- What is drawn from a row without NaN is compared by an equivalence. -/
theorem clean_drawSlices {row : Row} (free : row.NanFree) (levels : List Level)
    (supply : Supply) : Slices.Clean ((drawSlices row levels).run supply).1 := by
  have drawn := drawSlices_run row levels supply
  have each : ∀ (index : Nat) (entity : Entity),
      Slices.at? index ((drawSlices row levels).run supply).1 = some entity →
        entity.Read ∧ entity.relations = [] := by
    intro index entity found
    obtain ⟨level, -, made⟩ := Pairing.exists_getElem?_left drawn (Option.join_eq_some_iff.1 found)
    unfold DrawnFrom at made
    split at made
    · rename_i record given
      obtain ⟨supply, equal⟩ := made
      obtain rfl := Option.some.inj equal
      exact ⟨⟨_, rfl, Entity.nanFree_storedFields .storage _ (nanFree_slice? free given)⟩, rfl⟩
    · cases made
  exact ⟨fun index entity found => (each index entity found).1,
    fun index entity found => (each index entity found).2⟩

/-- What is drawn from rows, one after the other. -/
def drawRows (plan : Plan) : List Row → Draw (List Slices)
  | [] => pure []
  | row :: rest => do
      let slices ← drawSlices row plan.levels
      return slices :: (← drawRows plan rest)

theorem drawRows_cons_run (plan : Plan) (row : Row) (rest : List Row) (supply : Supply) :
    (drawRows plan (row :: rest)).run supply =
      (((drawSlices row plan.levels).run supply).1 ::
          ((drawRows plan rest).run ((drawSlices row plan.levels).run supply).2).1,
        ((drawRows plan rest).run ((drawSlices row plan.levels).run supply).2).2) := rfl

/-- Each row gives the instances of its slices. -/
theorem drawn_drawRows (plan : Plan) (rows : List Row) (supply : Supply) :
    List.Forall₂ (fun row slices => List.Forall₂ (DrawnFrom row) plan.levels slices) rows
      ((drawRows plan rows).run supply).1 := by
  induction rows generalizing supply with
  | nil => exact List.Forall₂.nil
  | cons row rest ih =>
      rw [drawRows_cons_run]
      exact List.Forall₂.cons (drawSlices_run row plan.levels supply) (ih _)

theorem mem_drawRows {plan : Plan} {rows : List Row} {supply : Supply} {slices : Slices}
    (member : slices ∈ ((drawRows plan rows).run supply).1) :
    ∃ row ∈ rows, ∃ supply, slices = ((drawSlices row plan.levels).run supply).1 := by
  induction rows generalizing supply with
  | nil => exact absurd member List.not_mem_nil
  | cons row rest ih =>
      rw [drawRows_cons_run] at member
      rcases List.mem_cons.1 member with rfl | later
      · exact ⟨row, List.mem_cons_self, supply, rfl⟩
      · obtain ⟨other, there, found⟩ := ih later
        exact ⟨other, List.mem_cons_of_mem _ there, found⟩

end Plan

end EntityMapper
