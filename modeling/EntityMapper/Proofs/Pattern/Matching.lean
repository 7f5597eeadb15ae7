import EntityMapper.Pattern.Basic

set_option autoImplicit false

/-! What patterns mean: each part relates the places where it can start to those where it can end.
The search, which follows sets of places, finds the ends that this relation gives, however often a
part is repeated. -/

namespace EntityMapper.Pattern

/-- A number of steps of a relation between places, one after the other. -/
inductive Steps (relation : Nat → Nat → Prop) : Nat → Nat → Nat → Prop where
  | none (place : Nat) : Steps relation 0 place place
  | more {times start middle finish : Nat} (first : relation start middle)
      (rest : Steps relation times middle finish) : Steps relation (times + 1) start finish

namespace Steps

variable {relation : Nat → Nat → Prop} {times start finish : Nat}

theorem zero_iff : Steps relation 0 start finish ↔ start = finish := by
  constructor
  · intro steps
    cases steps
    rfl
  · rintro rfl
    exact .none start

theorem succ_iff : Steps relation (times + 1) start finish ↔
    ∃ middle, relation start middle ∧ Steps relation times middle finish := by
  constructor
  · intro steps
    cases steps with
    | more first rest => exact ⟨_, first, rest⟩
  · intro ⟨middle, first, rest⟩
    exact .more first rest

theorem add_iff {more : Nat} : Steps relation (times + more) start finish ↔
    ∃ middle, Steps relation times start middle ∧ Steps relation more middle finish := by
  induction times generalizing start with
  | zero => simp [zero_iff]
  | succ times ih =>
      rw [Nat.add_right_comm]
      simp only [succ_iff, ih]
      constructor
      · intro ⟨next, first, middle, rest, last⟩
        exact ⟨middle, ⟨next, first, rest⟩, last⟩
      · intro ⟨middle, ⟨next, first, rest⟩, last⟩
        exact ⟨next, first, middle, rest, last⟩

/-- Steps lead as far as a single one may. -/
theorem bounds {limit : Nat}
    (bounded : ∀ start finish, relation start finish → start ≤ finish ∧ finish ≤ max start limit)
    (steps : Steps relation times start finish) : start ≤ finish ∧ finish ≤ max start limit := by
  induction steps with
  | none place => omega
  | more first rest ih =>
      have former := bounded _ _ first
      omega

/-- Where no step leads back, no more steps are needed than there are places between the ends: one
that stays where it is can be left out. -/
theorem exists_short {limit : Nat}
    (bounded : ∀ start finish, relation start finish → start ≤ finish ∧ finish ≤ max start limit)
    (steps : Steps relation times start finish) :
    ∃ taken ≤ times, taken ≤ finish - start ∧ Steps relation taken start finish := by
  induction steps with
  | none place => exact ⟨0, Nat.le_refl 0, Nat.zero_le _, .none place⟩
  | @more times start middle finish first rest ih =>
      obtain ⟨taken, fewer, within, short⟩ := ih
      have ahead := bounded start middle first
      have further := rest.bounds bounded
      by_cases stays : start = middle
      · subst stays
        exact ⟨taken, by omega, within, short⟩
      · exact ⟨taken + 1, by omega, by omega, .more first short⟩

end Steps

namespace Places

/-- A step leads from each place of a set to those that a relation gives. -/
def Follows (step : Places → Places) (relation : Nat → Nat → Prop) : Prop :=
  ∀ places place, place ∈ step places ↔ ∃ start ∈ places, relation start place

theorem mem_merge (left right : Places) (place : Nat) :
    place ∈ merge left right ↔ place ∈ left ∨ place ∈ right := by
  fun_induction merge left right with
  | case1 right => simp
  | case2 left nonempty => simp
  | case3 a left b right less ih => simp only [List.mem_cons, ih]; grind
  | case4 a left b right notLess greater ih => simp only [List.mem_cons, ih]; grind
  | case5 a left b right notLess notGreater ih =>
      obtain rfl : a = b := by omega
      simp only [List.mem_cons, ih]
      grind

variable {step : Places → Places} {relation : Nat → Nat → Prop}

theorem mem_iterate (follows : Follows step relation) (times : Nat) (places : Places)
    (place : Nat) : place ∈ iterate step times places ↔
      ∃ start ∈ places, Steps relation times start place := by
  induction times generalizing places with
  | zero => simp [iterate, Steps.zero_iff]
  | succ times ih =>
      rw [iterate, ih]
      simp only [follows places, Steps.succ_iff]
      constructor
      · intro ⟨middle, ⟨start, member, first⟩, rest⟩
        exact ⟨start, member, middle, first, rest⟩
      · intro ⟨start, member, middle, first, rest⟩
        exact ⟨middle, ⟨start, member, first⟩, rest⟩

/-- From a set of places that a step does not leave, no number of steps does. -/
theorem mem_of_steps {places : Places}
    (closed : ∀ start ∈ places, ∀ place, relation start place → place ∈ places)
    {times start finish : Nat} (steps : Steps relation times start finish)
    (member : start ∈ places) : finish ∈ places := by
  induction steps with
  | none place => exact member
  | more first rest ih => exact ih (closed _ member _ first)

theorem mem_closure (follows : Follows step relation) (times : Nat) (places : Places)
    (place : Nat) : place ∈ closure step times places ↔
      ∃ taken ≤ times, ∃ start ∈ places, Steps relation taken start place := by
  induction times generalizing places with
  | zero => simp [closure, Steps.zero_iff]
  | succ times ih =>
      have grown : ∀ other, other ∈ merge places (step places) ↔
          other ∈ places ∨ ∃ start ∈ places, relation start other := by
        intro other
        rw [mem_merge, follows places]
      rw [closure]
      by_cases stable : merge places (step places) = places
      · -- The search stops early: a further step would add nothing.
        rw [if_pos stable]
        have closed : ∀ start ∈ places, ∀ other, relation start other → other ∈ places := by
          intro start member other leads
          rw [← stable, grown]
          exact .inr ⟨start, member, leads⟩
        constructor
        · intro member
          exact ⟨0, Nat.zero_le _, place, member, .none place⟩
        · intro ⟨taken, _, start, member, steps⟩
          exact mem_of_steps closed steps member
      · rw [if_neg stable, ih]
        constructor
        · intro ⟨taken, fewer, middle, member, steps⟩
          rcases (grown middle).1 member with here | ⟨start, there, leads⟩
          · exact ⟨taken, by omega, middle, here, steps⟩
          · exact ⟨taken + 1, by omega, start, there, .more leads steps⟩
        · intro ⟨taken, fewer, start, member, steps⟩
          cases steps with
          | none => exact ⟨0, Nat.zero_le _, place, (grown place).2 (.inl member), .none place⟩
          | @more taken _ middle _ first rest =>
              exact ⟨taken, by omega, middle, (grown middle).2 (.inr ⟨start, member, first⟩), rest⟩

end Places

namespace Node

/-- A part of a pattern leads from a place of a text to another one. A repetition whose greatest
number is below its least one is made that least number of times. -/
def Matches (text : Array Char) : Node → Nat → Nat → Prop
  | .empty => fun start finish => finish = start
  | .set allowed => fun start finish =>
      (∃ c, text[start]? = some c ∧ allowed.contains c = true) ∧ finish = start + 1
  | .anchor condition => fun start finish =>
      condition.holds (if start = 0 then none else text[start - 1]?) text[start]? = true ∧
        finish = start
  | .sequence first second => fun start finish =>
      ∃ middle, Matches text first start middle ∧ Matches text second middle finish
  | .choice left right => fun start finish =>
      Matches text left start finish ∨ Matches text right start finish
  | .repetition node least most => fun start finish =>
      ∃ times, least ≤ times ∧ (∀ greatest, most = some greatest → times ≤ max least greatest) ∧
        Steps (Matches text node) times start finish

/-- A match never leads back, and past the end of the text it stays where it is. -/
theorem Matches.bounds {text : Array Char} {node : Node} {start finish : Nat}
    (found : node.Matches text start finish) :
    start ≤ finish ∧ finish ≤ max start text.size := by
  induction node generalizing start finish with
  | empty =>
      obtain rfl := found
      omega
  | set allowed =>
      obtain ⟨⟨c, here, _⟩, rfl⟩ := found
      have inside := (Array.getElem?_eq_some_iff.1 here).1
      omega
  | anchor condition =>
      obtain ⟨_, rfl⟩ := found
      omega
  | sequence first second ihFirst ihSecond =>
      obtain ⟨middle, before, after⟩ := found
      have former := ihFirst before
      have latter := ihSecond after
      omega
  | choice left right ihLeft ihRight =>
      cases found with
      | inl found => exact ihLeft found
      | inr found => exact ihRight found
  | repetition node least most ih =>
      obtain ⟨times, _, _, steps⟩ := found
      exact steps.bounds fun _ _ => ih

/-- The ends that the search finds are those of matches. -/
theorem follows_ends (text : Array Char) (node : Node) :
    Places.Follows (node.ends text) (node.Matches text) := by
  induction node with
  | empty =>
      intro places place
      simp [ends, Matches]
  | set allowed =>
      intro places place
      simp only [ends, Matches, List.mem_filterMap]
      refine exists_congr fun start => and_congr_right fun _ => ?_
      cases text[start]? with
      | none => simp
      | some c =>
          by_cases allows : allowed.contains c = true
          · simp only [Option.elim_some, allows, if_true, Option.some.injEq]
            exact ⟨fun next => ⟨⟨c, rfl, allows⟩, next.symm⟩, fun found => found.2.symm⟩
          · simp [allows]
  | anchor condition =>
      intro places place
      simp only [ends, Matches, List.mem_filter]
      constructor
      · intro ⟨member, holds⟩
        exact ⟨place, member, holds, rfl⟩
      · rintro ⟨start, member, holds, rfl⟩
        exact ⟨member, holds⟩
  | sequence first second ihFirst ihSecond =>
      intro places place
      simp only [ends, Matches, ihSecond (first.ends text places), ihFirst places]
      constructor
      · intro ⟨middle, ⟨start, member, before⟩, after⟩
        exact ⟨start, member, middle, before, after⟩
      · intro ⟨start, member, middle, before, after⟩
        exact ⟨middle, ⟨start, member, before⟩, after⟩
  | choice left right ihLeft ihRight =>
      intro places place
      simp only [ends, Matches, Places.mem_merge, ihLeft places, ihRight places]
      constructor
      · rintro (⟨start, member, found⟩ | ⟨start, member, found⟩)
        · exact ⟨start, member, .inl found⟩
        · exact ⟨start, member, .inr found⟩
      · rintro ⟨start, member, found | found⟩
        · exact .inl ⟨start, member, found⟩
        · exact .inr ⟨start, member, found⟩
  | repetition node least most ih =>
      intro places place
      simp only [ends, Matches, Places.mem_closure ih, Places.mem_iterate ih]
      constructor
      · intro ⟨taken, fewer, middle, ⟨start, member, before⟩, after⟩
        refine ⟨start, member, least + taken, by omega, ?_, Steps.add_iff.2 ⟨middle, before, after⟩⟩
        rintro greatest rfl
        simp only [Option.elim_some] at fewer
        omega
      · intro ⟨start, member, times, enough, notMore, steps⟩
        obtain ⟨extra, rfl⟩ : ∃ extra, times = least + extra := ⟨times - least, by omega⟩
        obtain ⟨middle, before, after⟩ := Steps.add_iff.1 steps
        -- The search takes no more steps than there are places, which is as good as any number.
        have bounded : ∀ start finish, node.Matches text start finish →
            start ≤ finish ∧ finish ≤ max start text.size := fun _ _ => Matches.bounds
        obtain ⟨taken, fewer, within, short⟩ := after.exists_short bounded
        have few : taken ≤ text.size + 1 := by
          have extent := after.bounds bounded
          omega
        refine ⟨taken, ?_, middle, ⟨start, member, before⟩, short⟩
        cases most with
        | none => exact few
        | some greatest =>
            have bound := notMore greatest rfl
            simp only [Option.elim_some]
            omega

/-- A pattern occurs in a text iff it leads from some place of the text to another one. -/
theorem occursIn_iff (node : Node) (text : String) :
    node.occursIn text = true ↔
      ∃ start ≤ text.toList.length, ∃ finish, node.Matches text.toList.toArray start finish := by
  unfold occursIn
  simp only [Bool.not_eq_true', List.isEmpty_eq_false_iff_exists_mem,
    follows_ends text.toList.toArray node _, List.mem_range, List.size_toArray]
  constructor
  · intro ⟨finish, start, inside, found⟩
    exact ⟨start, by omega, finish, found⟩
  · intro ⟨start, inside, finish, found⟩
    exact ⟨finish, start, by omega, found⟩

end Node

/-- A part of a text lies between two places. -/
structure Between (text : List Char) (start finish : Nat) (part : List Char) : Prop where
  drop : text.drop start = part ++ text.drop finish
  finish : finish = start + part.length

namespace Between

variable {text part more rest : List Char} {start middle finish : Nat}

/-- What stands at a place is the part between it and another place, with what stands there. -/
theorem exists_iff : text.drop start = part ++ rest ↔
    ∃ finish, Between text start finish part ∧ text.drop finish = rest := by
  constructor
  · intro stands
    have behind : text.drop (start + part.length) = rest := by
      rw [← List.drop_drop, stands, List.drop_left]
    refine ⟨start + part.length, ⟨?_, rfl⟩, behind⟩
    rw [stands, behind]
  · rintro ⟨finish, between, rfl⟩
    exact between.drop

theorem nil (text : List Char) (place : Nat) : Between text place place [] := ⟨rfl, rfl⟩

theorem append (first : Between text start middle part) (second : Between text middle finish more) :
    Between text start finish (part ++ more) := by
  constructor
  · rw [first.drop, second.drop, List.append_assoc]
  · rw [second.finish, first.finish, List.length_append, Nat.add_assoc]

/-- The first character of a part, and the others. -/
theorem exists_cons {c : Char} (between : Between text start finish (c :: part)) :
    Between text start (start + 1) [c] ∧ Between text (start + 1) finish part := by
  have behind : text.drop (start + 1) = part ++ text.drop finish := by
    rw [← List.drop_drop, between.drop]
    rfl
  refine ⟨⟨?_, rfl⟩, ⟨behind, ?_⟩⟩
  · rw [between.drop, behind]
    rfl
  · rw [between.finish, List.length_cons]
    omega

end Between

namespace Node

variable {allowed : CharSet} {text : List Char} {start finish : Nat}

theorem matches_set_iff : (Node.set allowed).Matches text.toArray start finish ↔
    ∃ c, allowed.contains c = true ∧ Between text start finish [c] := by
  simp only [Matches, List.getElem?_toArray]
  constructor
  · rintro ⟨⟨c, here, allows⟩, rfl⟩
    obtain ⟨inside, rfl⟩ := List.getElem?_eq_some_iff.1 here
    exact ⟨_, allows, List.drop_eq_getElem_cons inside, rfl⟩
  · intro ⟨c, allows, between⟩
    refine ⟨⟨c, ?_, allows⟩, between.finish⟩
    rw [← List.head?_drop, between.drop]
    rfl

theorem steps_set_iff {times : Nat} :
    Steps ((Node.set allowed).Matches text.toArray) times start finish ↔
      ∃ part, part.length = times ∧ (∀ c ∈ part, allowed.contains c = true) ∧
        Between text start finish part := by
  induction times generalizing start with
  | zero =>
      rw [Steps.zero_iff]
      constructor
      · rintro rfl
        exact ⟨[], rfl, by simp, .nil text start⟩
      · intro ⟨part, vacant, _, between⟩
        rw [between.finish, vacant, Nat.add_zero]
  | succ times ih =>
      rw [Steps.succ_iff]
      simp only [ih, matches_set_iff]
      constructor
      · rintro ⟨middle, ⟨c, allows, first⟩, part, rfl, allowsRest, rest⟩
        exact ⟨c :: part, rfl, by simpa using ⟨allows, allowsRest⟩, first.append rest⟩
      · intro ⟨part, counted, allows, between⟩
        cases part with
        | nil => simp at counted
        | cons c part =>
            rw [List.forall_mem_cons] at allows
            obtain ⟨first, rest⟩ := between.exists_cons
            exact ⟨start + 1, ⟨c, allows.1, first⟩, part, by simpa using counted, allows.2, rest⟩

/-- Only the first place has no character before it. -/
theorem matches_start_iff (inside : start ≤ text.length) :
    (Node.anchor .start).Matches text.toArray start finish ↔ start = 0 ∧ finish = 0 := by
  simp only [Matches, Anchor.holds, decide_eq_true_eq]
  by_cases first : start = 0
  · simp [first]
  · have previous : start - 1 < text.length := by omega
    simp [first, previous]

/-- At the last place, and past it, there is no character. -/
theorem matches_finish_iff : (Node.anchor .finish).Matches text.toArray start finish ↔
    text.drop start = [] ∧ finish = start := by
  simp [Matches, Anchor.holds]

/-- At least so many characters of a set, one after the other. -/
theorem matches_repetition_set_iff {least : Nat} :
    (Node.repetition (.set allowed) least none).Matches text.toArray start finish ↔
      ∃ part, least ≤ part.length ∧ (∀ c ∈ part, allowed.contains c = true) ∧
        Between text start finish part := by
  constructor
  · intro ⟨times, enough, _, steps⟩
    obtain ⟨part, rfl, allows, between⟩ := steps_set_iff.1 steps
    exact ⟨part, enough, allows, between⟩
  · intro ⟨part, enough, allows, between⟩
    exact ⟨part.length, enough, by simp, steps_set_iff.2 ⟨part, rfl, allows, between⟩⟩

end Node

end EntityMapper.Pattern
