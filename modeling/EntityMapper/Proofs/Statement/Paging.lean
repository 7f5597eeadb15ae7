import EntityMapper.Statement.Clause
import Mathlib.Logic.ExistsUnique

set_option autoImplicit false

/-! Which rows the pages of one size cut out of a result. The pages follow one another without a gap
and without an overlap, up to the greatest number that a parameter holds. -/

namespace EntityMapper

/-- The greatest number that a parameter holds. -/
def Value.greatest : Nat := 9223372036854775807

theorem Value.toInt_ofNat_min (n : Nat) :
    (Int64.ofNat (min n greatest)).toInt = (min n greatest : Nat) := by
  apply Int64.toInt_ofNat_of_lt
  unfold greatest
  omega

namespace Page

/-- The number of rows before the page, however great. -/
def before (page : Page) : Nat := page.size.toNat * (max page.number.toNat 1 - 1)

/-- The clause binds the size of the page and then the number of rows before it, each held at the
greatest number of a parameter. -/
theorem params_clause_eq (page : Page) :
    page.clause.params =
      [.int (Int64.ofNat (min page.size.toNat Value.greatest)),
        .int (Int64.ofNat (min page.before Value.greatest))] := by
  -- The greatest number of 64 bits, at which the offset is held, is more than a parameter holds.
  have clamped : min page.offset Value.greatest = min page.before Value.greatest := by
    unfold offset before Value.greatest
    omega
  rw [← clamped]
  rfl

/-- By the parameters of its clause, the page holds the row of an index: the rows before it are
passed over, and after them no more are taken than the size says. -/
def Holds (page : Page) (row : Nat) : Prop :=
  ∃ limit offset : Int64, page.clause.params = [.int limit, .int offset] ∧
    offset.toInt ≤ row ∧ (row : Int) < offset.toInt + limit.toInt

theorem holds_iff_between (page : Page) (row : Nat) :
    page.Holds row ↔ min page.before Value.greatest ≤ row ∧
      row < min page.before Value.greatest + min page.size.toNat Value.greatest := by
  have start := Value.toInt_ofNat_min page.before
  have width := Value.toInt_ofNat_min page.size.toNat
  constructor
  · intro ⟨limit, offset, bound, low, high⟩
    rw [params_clause_eq] at bound
    simp only [List.cons.injEq, Value.int.injEq, and_true] at bound
    rw [← bound.1, ← bound.2] at high
    rw [← bound.2] at low
    omega
  · intro inside
    refine ⟨_, _, params_clause_eq page, ?_, ?_⟩
    · omega
    · omega

/-- Below the greatest number of a parameter the page that holds a row is told by division. -/
theorem holds_iff {number size : UInt64} {row : Nat} (sized : 0 < size.toNat)
    (within : row < Value.greatest) :
    Holds ⟨number, size⟩ row ↔ max number.toNat 1 - 1 = row / size.toNat := by
  rw [holds_iff_between]
  unfold before
  dsimp only
  constructor
  · intro ⟨low, high⟩
    symm
    apply Nat.div_eq_of_lt_le
    · -- What is clamped to the greatest number cannot lie below the row.
      rw [Nat.mul_comm]
      omega
    · rw [Nat.succ_mul, Nat.mul_comm]
      omega
  · intro quotient
    rw [quotient]
    have low : size.toNat * (row / size.toNat) ≤ row := Nat.mul_div_le row size.toNat
    have next : row < size.toNat * (row / size.toNat) + size.toNat :=
      Nat.lt_mul_div_succ row sized
    by_cases small : size.toNat ≤ Value.greatest
    · omega
    · -- A page of more rows than a parameter can count holds the row only as the first page.
      have first : row / size.toNat = 0 := Nat.div_eq_of_lt (by omega)
      rw [first] at low next ⊢
      omega

/-- Pages of one size tile the rows: each index below the greatest number of a parameter lies in one
page and no other, page zero is page one, and for any page both parameters are the exact numbers,
held at the greatest that a parameter holds, so that neither of them is negative. -/
theorem pages_tile :
    (∀ size : UInt64, 1 ≤ size → ∀ row : Nat, row < 9223372036854775807 →
      ∃! number : UInt64, 1 ≤ number ∧ Holds ⟨number, size⟩ row) ∧
    (∀ size : UInt64, Page.clause ⟨0, size⟩ = Page.clause ⟨1, size⟩) ∧
    ∀ page : Page, ∃ limit offset : Int64, page.clause.params = [.int limit, .int offset] ∧
      0 ≤ limit.toInt ∧ 0 ≤ offset.toInt ∧
      limit.toInt = (min page.size.toNat 9223372036854775807 : Nat) ∧
      offset.toInt =
        (min (page.size.toNat * (max page.number.toNat 1 - 1)) 9223372036854775807 : Nat) := by
  refine ⟨?_, fun size => rfl, ?_⟩
  · intro size positive row within
    have sized : 0 < size.toNat := UInt64.le_iff_toNat_le.1 positive
    have small : row / size.toNat + 1 < 18446744073709551616 := by
      have less := Nat.div_le_self row size.toNat
      omega
    have counted : (UInt64.ofNat (row / size.toNat + 1)).toNat = row / size.toNat + 1 :=
      UInt64.toNat_ofNat_of_lt small
    refine ⟨UInt64.ofNat (row / size.toNat + 1), ⟨?_, ?_⟩, ?_⟩
    · rw [UInt64.le_iff_toNat_le, counted]
      exact Nat.succ_pos _
    · rw [holds_iff sized within, counted, Nat.max_eq_left (Nat.succ_pos _)]
      exact Nat.add_sub_cancel _ 1
    · intro other ⟨least, holds⟩
      rw [holds_iff sized within] at holds
      rw [UInt64.le_iff_toNat_le] at least
      change 1 ≤ other.toNat at least
      apply UInt64.toNat_inj.1
      rw [counted]
      omega
  · intro page
    have start := Value.toInt_ofNat_min page.before
    have width := Value.toInt_ofNat_min page.size.toNat
    refine ⟨_, _, params_clause_eq page, ?_, ?_, width, start⟩
    · rw [width]
      exact Int.natCast_nonneg _
    · rw [start]
      exact Int.natCast_nonneg _

/-- The third of pages of ten holds the rows from the twentieth on, and of pages longer than a
parameter can say the first holds every row that there is an index for. -/
theorem pages_tile_ten :
    (1 : UInt64) ≤ 10 ∧ 25 < 9223372036854775807 ∧
      (∃! number : UInt64, 1 ≤ number ∧ Holds ⟨number, 10⟩ 25) ∧
      Holds ⟨3, 10⟩ 25 ∧ Holds ⟨0, 9223372036854775808⟩ 9223372036854775806 := by
  refine ⟨by decide, by decide, pages_tile.1 10 (by decide) 25 (by decide), ?_, ?_⟩
  · rw [holds_iff (by decide) (by decide)]
    decide
  · rw [holds_iff (by decide) (by decide)]
    decide

end Page

end EntityMapper
