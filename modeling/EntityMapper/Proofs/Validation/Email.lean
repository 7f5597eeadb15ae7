import EntityMapper.Proofs.Pattern.Matching
import EntityMapper.Validation.Check

set_option autoImplicit false

/-! The texts that have the form of a mail address, told without the pattern: no blank, one at sign
with something before it, and behind it a point with something on both sides. -/

namespace EntityMapper

open Pattern Text

theorem Pattern.CharSet.contains_single (c other : Char) :
    (CharSet.single c).contains other = true ↔ other = c := by
  simp only [CharSet.single, CharSet.contains, Ranges.contains_cons, Ranges.contains_nil,
    Bool.or_false, Bool.and_eq_true, decide_eq_true_eq]
  constructor
  · intro ⟨low, high⟩
    exact Char.toNat_inj.1 (Nat.le_antisymm high low)
  · rintro rfl
    exact ⟨Nat.le_refl _, Nat.le_refl _⟩

namespace Email

/-- No blank, exactly one at sign, at least one character before it, and behind it a point that is
neither the first nor the last character. -/
structure Addressed (text : List Char) : Prop where
  solid : ∀ c ∈ text, isBlank c = false
  once : text.count '@' = 1
  parted : ∃ mailbox domain, text = mailbox ++ '@' :: domain ∧ mailbox ≠ [] ∧
    ∃ host zone, domain = host ++ '.' :: zone ∧ host ≠ [] ∧ zone ≠ []

/-- One or more characters, none of them blank or an at sign. -/
def Plain (part : List Char) : Prop := part ≠ [] ∧ ∀ c ∈ part, isBlank c = false ∧ c ≠ '@'

theorem contains_ordinary (c : Char) :
    ordinary.contains c = true ↔ isBlank c = false ∧ c ≠ '@' := by
  have sign := CharSet.contains_single '@' c
  simp only [ordinary, CharSet.contains, Bool.not_eq_true', Bool.or_eq_false_iff, isBlank]
  rw [← Bool.not_eq_true ((CharSet.single '@').contains c), sign]

theorem matches_run_iff {text : List Char} {start finish : Nat} :
    run.Matches text.toArray start finish ↔
      ∃ part, Plain part ∧ Between text start finish part := by
  unfold run
  simp only [Node.matches_repetition_set_iff, contains_ordinary]
  constructor
  · intro ⟨part, nonempty, allowed, between⟩
    exact ⟨part, ⟨List.ne_nil_of_length_pos nonempty, allowed⟩, between⟩
  · intro ⟨part, ⟨nonempty, allowed⟩, between⟩
    exact ⟨part, List.length_pos_iff.2 nonempty, allowed, between⟩

theorem matches_mark_iff {text : List Char} {mark : Char} {start finish : Nat} :
    (Node.set (.single mark)).Matches text.toArray start finish ↔
      Between text start finish [mark] := by
  rw [Node.matches_set_iff]
  simp only [CharSet.contains_single]
  constructor
  · rintro ⟨c, rfl, between⟩
    exact between
  · intro between
    exact ⟨mark, rfl, between⟩

theorem plain_iff (part : List Char) :
    Plain part ↔ part ≠ [] ∧ (∀ c ∈ part, isBlank c = false) ∧ part.count '@' = 0 := by
  unfold Plain
  rw [List.count_eq_zero]
  constructor
  · intro ⟨nonempty, allowed⟩
    refine ⟨nonempty, fun c member => (allowed c member).1, fun member => ?_⟩
    exact (allowed '@' member).2 rfl
  · intro ⟨nonempty, solid, absent⟩
    refine ⟨nonempty, fun c member => ⟨solid c member, ?_⟩⟩
    rintro rfl
    exact absent member

/-- Three plain parts around an at sign and a point. -/
def Composed (text : List Char) : Prop :=
  ∃ mailbox host zone, Plain mailbox ∧ Plain host ∧ Plain zone ∧
    text = mailbox ++ '@' :: (host ++ '.' :: zone)

/-- The pattern is found iff the whole text is composed as it says: the anchors leave no choice of
the ends, and the at sign and the point divide what is between. -/
theorem isEmail_iff_composed (text : String) : isEmail text = true ↔ Composed text.toList := by
  unfold isEmail
  rw [Node.occursIn_iff]
  constructor
  · intro ⟨start, inside, finish, begins, atStart, signed, first, hosted, sign, pointed, second,
      zoned, point, ends, third, last, atFinish, _⟩
    obtain ⟨rfl, rfl⟩ := (Node.matches_start_iff inside).1 atStart
    obtain ⟨mailbox, plainMailbox, first⟩ := matches_run_iff.1 first
    obtain ⟨host, plainHost, second⟩ := matches_run_iff.1 second
    obtain ⟨zone, plainZone, third⟩ := matches_run_iff.1 third
    have sign := matches_mark_iff.1 sign
    have point := matches_mark_iff.1 point
    have nothing := (Node.matches_finish_iff.1 atFinish).1
    refine ⟨mailbox, host, zone, plainMailbox, plainHost, plainZone, ?_⟩
    calc text.toList = mailbox ++ text.toList.drop signed := first.drop
      _ = mailbox ++ '@' :: (host ++ '.' :: zone) := by
        rw [sign.drop, second.drop, point.drop, third.drop, nothing, List.append_nil]
        rfl
  · intro ⟨mailbox, host, zone, plainMailbox, plainHost, plainZone, composed⟩
    have whole : text.toList.drop 0 = mailbox ++ '@' :: (host ++ '.' :: zone) := composed
    obtain ⟨signed, first, behind⟩ := Between.exists_iff.1 whole
    have signs : text.toList.drop signed = ['@'] ++ (host ++ '.' :: zone) := behind
    obtain ⟨hosted, sign, behind⟩ := Between.exists_iff.1 signs
    obtain ⟨pointed, second, behind⟩ := Between.exists_iff.1 behind
    have points : text.toList.drop pointed = ['.'] ++ zone := behind
    obtain ⟨zoned, point, behind⟩ := Between.exists_iff.1 points
    rw [← List.append_nil zone] at behind
    obtain ⟨finish, third, nothing⟩ := Between.exists_iff.1 behind
    exact ⟨0, Nat.zero_le _, finish, 0, (Node.matches_start_iff (Nat.zero_le _)).2 ⟨rfl, rfl⟩,
      signed, matches_run_iff.2 ⟨mailbox, plainMailbox, first⟩,
      hosted, matches_mark_iff.2 sign,
      pointed, matches_run_iff.2 ⟨host, plainHost, second⟩,
      zoned, matches_mark_iff.2 point,
      finish, matches_run_iff.2 ⟨zone, plainZone, third⟩,
      finish, Node.matches_finish_iff.2 ⟨nothing, rfl⟩, rfl⟩

theorem addressed_iff_composed (text : List Char) : Addressed text ↔ Composed text := by
  constructor
  · rintro ⟨solid, once, mailbox, domain, rfl, before, host, zone, rfl, left, right⟩
    simp only [List.forall_mem_append, List.forall_mem_cons] at solid
    simp only [List.count_append, List.count_cons, beq_self_eq_true, if_true] at once
    obtain ⟨solidMailbox, -, solidHost, -, solidZone⟩ := solid
    refine ⟨mailbox, host, zone, (plain_iff _).2 ⟨before, solidMailbox, by omega⟩,
      (plain_iff _).2 ⟨left, solidHost, by omega⟩,
      (plain_iff _).2 ⟨right, solidZone, by omega⟩, rfl⟩
  · rintro ⟨mailbox, host, zone, plainMailbox, plainHost, plainZone, rfl⟩
    obtain ⟨before, solidMailbox, absentMailbox⟩ := (plain_iff _).1 plainMailbox
    obtain ⟨left, solidHost, absentHost⟩ := (plain_iff _).1 plainHost
    obtain ⟨right, solidZone, absentZone⟩ := (plain_iff _).1 plainZone
    refine ⟨?_, ?_, mailbox, _, rfl, before, host, zone, rfl, left, right⟩
    · simp only [List.forall_mem_append, List.forall_mem_cons]
      exact ⟨solidMailbox, by decide, solidHost, by decide, solidZone⟩
    · simp [List.count_append, absentMailbox, absentHost, absentZone]

/-- A text is taken for a mail address iff it has the form of one, and of all values the rule on
mail addresses lets pass these texts only; for any other value it gives one reason. -/
theorem isEmail_iff_addressed :
    (∀ text : String, isEmail text = true ↔ Addressed text.toList) ∧
    (∀ value : Value, Rule.check .email value = none ↔
      ∃ text : String, value = .text text ∧ Addressed text.toList) ∧
    (∀ value : Value, Rule.check .email value = some .invalidValue ↔
      ¬ ∃ text : String, value = .text text ∧ Addressed text.toList) ∧
    Reason.invalidValue.text = "INVALID_VALUE" := by
  have accepted : ∀ text : String, isEmail text = true ↔ Addressed text.toList := by
    intro text
    rw [isEmail_iff_composed, addressed_iff_composed]
  refine ⟨accepted, ?_, ?_, rfl⟩
  all_goals
    intro value
    cases value with
    | text text => simp [Rule.check, Rule.checkText, accepted]
    | _ => simp [Rule.check, Rule.checkText]

end Email

end EntityMapper
