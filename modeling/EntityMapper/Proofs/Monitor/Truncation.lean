import EntityMapper.Monitor.Hook
import EntityMapper.Proofs.Loop

set_option autoImplicit false

/-! Statements and errors cut to a number of bytes: a cut never divides a character, and it leaves
as many whole characters as fit. -/

namespace EntityMapper.Text

/-- A text can be cut at a byte position. -/
abbrev Cuts (text : String) (offset : Nat) : Prop := (String.Pos.Raw.mk offset).IsValid text

section Edge

variable (text : String)

/-- A search for an edge goes back from positions inside of characters and behind the end. -/
def Inside (offset : Nat) : Prop := 0 < offset ∧ ¬ Cuts text offset

theorem cuts_size {start rest : String} (whole : text = start ++ rest) :
    Cuts text start.utf8ByteSize :=
  String.Pos.Raw.isValid_iff_exists_append.2 ⟨start, rest, whole, rfl⟩

theorem loop_edge (offset : Nat) :
    ∃ rounds, Loop (Inside text) (· - 1) rounds offset (edge text offset) := by
  induction offset with
  | zero => exact ⟨0, .stop fun inside => Nat.lt_irrefl 0 inside.1⟩
  | succ offset ih =>
      rw [edge]
      split
      · rename_i cuts
        exact ⟨0, .stop fun inside => inside.2 cuts⟩
      · rename_i inside
        obtain ⟨rounds, rest⟩ := ih
        exact ⟨rounds + 1, .round ⟨Nat.succ_pos offset, inside⟩ rest⟩

/-- Each round goes back by one byte. -/
theorem rounds_add_of_loop {rounds start final : Nat}
    (loop : Loop (Inside text) (· - 1) rounds start final) : rounds + final = start := by
  induction loop with
  | stop halted => exact Nat.zero_add _
  | round going rest ih =>
      have positive := going.1
      omega

theorem edge_le (offset : Nat) : edge text offset ≤ offset := by
  obtain ⟨rounds, loop⟩ := loop_edge text offset
  have back := rounds_add_of_loop text loop
  omega

/-- No position further on at which the text can be cut is missed. -/
theorem le_edge {position offset : Nat} (cuts : Cuts text position) (before : position ≤ offset) :
    position ≤ edge text offset := by
  induction offset with
  | zero => exact before
  | succ offset ih =>
      rw [edge]
      split
      · exact before
      · rename_i inside
        apply ih
        apply Nat.le_of_lt_succ (Nat.lt_of_le_of_ne before _)
        rintro rfl
        exact inside cuts

end Edge

theorem isPrefix_iff {start text : String} :
    start.toList <+: text.toList ↔ ∃ rest, text = start ++ rest := by
  constructor
  · rintro ⟨rest, whole⟩
    refine ⟨String.ofList rest, String.toList_injective ?_⟩
    rw [String.toList_append, String.toList_ofList, whole]
  · rintro ⟨rest, rfl⟩
    rw [String.toList_append]
    exact List.prefix_append _ _

/-- A beginning that is not all of a text goes on with a character. -/
theorem exists_push_isPrefix {start text : String} (begins : start.toList <+: text.toList)
    (more : start ≠ text) : ∃ letter : Char, (start.push letter).toList <+: text.toList := by
  obtain ⟨rest, whole⟩ := begins
  cases rest with
  | nil => exact absurd (String.toList_injective (by rwa [List.append_nil] at whole)) more
  | cons letter others =>
      refine ⟨letter, others, ?_⟩
      rw [String.toList_push, List.append_assoc, List.singleton_append, whole]

/-- The longest beginning of a text, in whole characters, that takes no more than `limit`
bytes. -/
structure Longest (limit : Nat) (text start : String) : Prop where
  begins : start.toList <+: text.toList
  fits : start.utf8ByteSize ≤ limit
  longest : ∀ other : String, other.toList <+: text.toList → other.utf8ByteSize ≤ limit →
    other.toList <+: start.toList

section Truncated

variable {limit : Nat} {text : String}

theorem truncated_of_le (fits : text.utf8ByteSize ≤ limit) : truncated limit text = text :=
  if_pos fits

/-- A longer text is cut at the edge. -/
theorem exists_truncated_append (long : limit < text.utf8ByteSize) :
    (∃ rest, text = truncated limit text ++ rest) ∧
      (truncated limit text).utf8ByteSize = edge text limit := by
  have split := (text.pos ⟨edge text limit⟩ (isValid_edge text limit)).splits
  rw [truncated, if_neg (Nat.not_le.2 long)]
  exact ⟨⟨_, split.eq_append⟩, congrArg String.Pos.Raw.byteIdx split.offset_eq_rawEndPos.symm⟩

theorem longest_truncated (limit : Nat) (text : String) :
    Longest limit text (truncated limit text) := by
  by_cases fits : text.utf8ByteSize ≤ limit
  · rw [truncated_of_le fits]
    exact ⟨List.prefix_refl _, fits, fun _ begins _ => begins⟩
  · obtain ⟨cut, size⟩ := exists_truncated_append (Nat.not_le.1 fits)
    have begins := isPrefix_iff.2 cut
    refine ⟨begins, size ▸ edge_le text limit, fun other start short => ?_⟩
    obtain ⟨rest, whole⟩ := isPrefix_iff.1 start
    have before : other.utf8ByteSize ≤ edge text limit :=
      le_edge text (cuts_size text whole) short
    rcases List.prefix_or_prefix_of_prefix start begins with shorter | longer
    · exact shorter
    · -- The other beginning has no byte more, and so no character more.
      obtain ⟨more, rfl⟩ := isPrefix_iff.1 longer
      rw [String.utf8ByteSize_append, size] at before
      have nothing : more = "" := String.utf8ByteSize_eq_zero_iff.1 (by omega)
      exact ⟨[], by rw [List.append_nil, nothing, String.append_empty]⟩

/-- The next character would not fit, and none takes more than four bytes. -/
theorem le_edge_add (long : limit < text.utf8ByteSize) : limit ≤ edge text limit + 3 := by
  obtain ⟨begins, fits, longest⟩ := longest_truncated limit text
  have size := (exists_truncated_append long).2
  have more : truncated limit text ≠ text := by
    intro whole
    rw [whole] at fits
    omega
  obtain ⟨letter, further⟩ := exists_push_isPrefix begins more
  have width := letter.utf8Size_le_four
  by_contra short
  have longer := (longest _ further (by rw [String.utf8ByteSize_push]; omega)).length_le
  rw [String.toList_push, List.length_append, List.length_singleton] at longer
  omega

theorem size_abridge_le (limit : Nat) (text : String) :
    (abridge limit text).utf8ByteSize ≤ limit + 3 := by
  rw [abridge]
  split
  · omega
  · have fits := (longest_truncated limit text).fits
    have dots : "...".utf8ByteSize = 3 := rfl
    rw [String.utf8ByteSize_append]
    omega

end Truncated

theorem eq_of_announced {level : LogLevel} {limit : Nat} {context : Context} {shown : String}
    (announced : ("sql", .text shown) ∈ (Hook.announcement level (some limit) context).fields) :
    shown = abridge limit context.text := by
  simpa [Hook.announcement] using announced

/-- A text is cut without dividing a character: the search for the cut ends between two characters,
and what is left is the longest beginning that fits, which is the whole text if that fits and else
misses the limit by no more than three bytes. So statements and errors are shown with no more than
three dots beyond their limits. -/
theorem truncation_keeps_characters (limit : Nat) (text : String) :
    (∃ rounds, Loop (Inside text) (· - 1) rounds limit (edge text limit) ∧
      (limit < text.utf8ByteSize → rounds ≤ 3)) ∧
      Cuts text (edge text limit) ∧
      Longest limit text (truncated limit text) ∧
      (text.utf8ByteSize ≤ limit → truncated limit text = text) ∧
      (limit < text.utf8ByteSize →
        (truncated limit text).utf8ByteSize = edge text limit ∧ limit ≤ edge text limit + 3) ∧
      (∀ level context shown,
        ("sql", .text shown) ∈ (Hook.announcement level (some limit) context).fields →
          shown.utf8ByteSize ≤ limit + 3) ∧
      ∃ shown, Outcome.failure text = .failed shown ∧ shown.utf8ByteSize ≤ 512 + 3 := by
  refine ⟨?_, isValid_edge text limit, longest_truncated limit text, truncated_of_le,
    fun long => ⟨(exists_truncated_append long).2, le_edge_add long⟩,
    fun level context shown announced => ?_, _, rfl, size_abridge_le 512 text⟩
  · obtain ⟨rounds, loop⟩ := loop_edge text limit
    refine ⟨rounds, loop, fun long => ?_⟩
    have back := rounds_add_of_loop text loop
    have near := le_edge_add long
    omega
  · rw [eq_of_announced announced]
    exact size_abridge_le limit context.text

/-- The second byte is the first half of an accented letter. -/
theorem truncation_keeps_characters_accent :
    let statement : Context := .ofStatement "héllo" 0 none none
    2 < "héllo".utf8ByteSize ∧ "héllo".utf8ByteSize ≤ 6 ∧
      truncated 2 "héllo" = "h" ∧
      (truncated 2 "héllo").utf8ByteSize = edge "héllo" 2 ∧ 2 ≤ edge "héllo" 2 + 3 ∧
      truncated 6 "héllo" = "héllo" ∧
      "h".toList <+: (truncated 2 "héllo").toList ∧
      ("sql", .text "h...") ∈ (Hook.announcement .debug (some 2) statement).fields ∧
      "h...".utf8ByteSize ≤ 2 + 3 := by
  intro statement
  have long : 2 < "héllo".utf8ByteSize := by decide
  have short : "héllo".utf8ByteSize ≤ 6 := by decide
  have announced :
      ("sql", .text "h...") ∈ (Hook.announcement .debug (some 2) statement).fields := by decide
  obtain ⟨-, -, longest, -, cut, shown, -⟩ := truncation_keeps_characters 2 "héllo"
  obtain ⟨-, -, -, whole, -⟩ := truncation_keeps_characters 6 "héllo"
  exact ⟨long, short, by decide, (cut long).1, (cut long).2, whole short,
    longest.longest "h" (by decide) (by decide), announced, shown _ _ _ announced⟩

end EntityMapper.Text
