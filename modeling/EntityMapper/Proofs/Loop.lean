import Mathlib.Logic.Function.Iterate

set_option autoImplicit false

/-! Loops that go on while a condition holds, told by the number of their rounds. -/

namespace EntityMapper

/-- A loop that starts in one state stops in another after so many rounds. -/
inductive Loop {State : Type} (goesOn : State → Prop) (body : State → State) :
    Nat → State → State → Prop
  | stop {state : State} (halted : ¬ goesOn state) : Loop goesOn body 0 state state
  | round {rounds : Nat} {state final : State} (going : goesOn state)
      (rest : Loop goesOn body rounds (body state) final) :
      Loop goesOn body (rounds + 1) state final

namespace Loop

variable {State : Type} {goesOn : State → Prop} {body : State → State} {rounds : Nat}
  {start final : State}

/-- The loop goes on in every state that it meets before the last one. -/
theorem goesOn_iterate (loop : Loop goesOn body rounds start final) {round : Nat}
    (early : round < rounds) : goesOn (body^[round] start) := by
  induction loop generalizing round with
  | stop halted => exact absurd early (Nat.not_lt_zero round)
  | round going rest ih =>
      cases round with
      | zero => exact going
      | succ round =>
          rw [Function.iterate_succ_apply]
          exact ih (Nat.lt_of_succ_lt_succ early)

end Loop

end EntityMapper
