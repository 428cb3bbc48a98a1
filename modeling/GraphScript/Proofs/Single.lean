import Mathlib.Algebra.Order.Field.Power
import Mathlib.Algebra.Order.Round
import Mathlib.Data.Int.Log
import Mathlib.Data.Rat.Floor
import Mathlib.Tactic.FieldSimp
import Mathlib.Tactic.Linarith
import Mathlib.Tactic.NormNum
import Mathlib.Tactic.Positivity
import Mathlib.Tactic.Ring

namespace GraphScript.CSharp

/-- The integer nearest to a value; a tie goes to the even neighbour. -/
def nearestEven (t : ℚ) : Int :=
  if 2 * t < 2 * ⌊t⌋ + 1 ∨ 2 * t = 2 * ⌊t⌋ + 1 ∧ Even ⌊t⌋ then ⌊t⌋ else ⌊t⌋ + 1

/-- The distance of neighbours on the grid of single precision around a value. -/
def gap (r : ℚ) : ℚ :=
  2 ^ max (Int.log 2 |r| - 23) (-149)

/-- The number of single precision nearest to a value; far outside there are no bounds. -/
def single (r : ℚ) : ℚ :=
  nearestEven (r / gap r) * gap r

theorem nearestEven_le_iff {t : ℚ} {k : Int} :
    nearestEven t ≤ k ↔ 2 * t < 2 * k + 1 ∨ 2 * t = 2 * k + 1 ∧ Even k := by
  have low := Int.floor_le t
  have high := Int.lt_floor_add_one t
  rcases lt_trichotomy ⌊t⌋ k with below | rfl | above
  · have room : (⌊t⌋ : ℚ) + 1 ≤ k := by exact_mod_cast below
    refine iff_of_true ?_ (.inl (by linarith))
    unfold nearestEven
    split <;> omega
  · unfold nearestEven
    split
    next down => exact iff_of_true le_rfl down
    next up => exact iff_of_false (by omega) up
  · have room : (k : ℚ) + 1 ≤ ⌊t⌋ := by exact_mod_cast above
    refine iff_of_false ?_ ?_
    · unfold nearestEven
      split <;> omega
    · rintro (h | ⟨h, -⟩) <;> linarith

theorem le_nearestEven_iff {t : ℚ} {k : Int} :
    k ≤ nearestEven t ↔ 2 * k - 1 < 2 * t ∨ 2 * t = 2 * k - 1 ∧ Even k := by
  have below : nearestEven t ≤ k - 1 ↔ 2 * t < 2 * k - 1 ∨ 2 * t = 2 * k - 1 ∧ ¬Even k := by
    rw [nearestEven_le_iff, Int.even_sub_one]
    push_cast
    ring_nf
  rw [show k ≤ nearestEven t ↔ ¬nearestEven t ≤ k - 1 by omega, below]
  rcases lt_trichotomy (2 * t) (2 * k - 1) with h | h | h
  · refine iff_of_false (fun other => other (.inl h)) ?_
    rintro (h' | ⟨h', -⟩) <;> linarith
  · rw [h]
    simp
  · refine iff_of_true ?_ (.inl h)
    rintro (h' | ⟨h', -⟩) <;> linarith

theorem nearestEven_le {t : ℚ} {k : Int} (h : t ≤ k) : nearestEven t ≤ k :=
  nearestEven_le_iff.mpr (.inl (by linarith))

theorem le_nearestEven {t : ℚ} {k : Int} (h : k ≤ t) : k ≤ nearestEven t :=
  le_nearestEven_iff.mpr (.inl (by linarith))

theorem nearestEven_neg (t : ℚ) : nearestEven (-t) = -nearestEven t := by
  have mirror (k : Int) : nearestEven (-t) ≤ k ↔ -k ≤ nearestEven t := by
    have even : Even (-k) ↔ Even k := even_neg
    rw [nearestEven_le_iff, le_nearestEven_iff, even]
    push_cast
    constructor
    · rintro (h | ⟨h, hk⟩)
      · exact .inl (by linarith)
      · exact .inr ⟨by linarith, hk⟩
    · rintro (h | ⟨h, hk⟩)
      · exact .inl (by linarith)
      · exact .inr ⟨by linarith, hk⟩
  apply le_antisymm
  · exact (mirror _).mpr (by omega)
  · have := (mirror (nearestEven (-t))).mp le_rfl
    omega

theorem gap_pos (r : ℚ) : 0 < gap r := by
  unfold gap
  positivity

theorem single_neg (r : ℚ) : single (-r) = -single r := by
  have same : gap (-r) = gap r := by rw [gap, gap, abs_neg]
  rw [single, single, same, neg_div, nearestEven_neg]
  push_cast
  ring

/-- Between two powers of two the gap is the same. -/
theorem gap_eq {r : ℚ} {e : Int} (least : -126 ≤ e) (low : 2 ^ e ≤ r) (high : r < 2 ^ (e + 1)) :
    gap r = 2 ^ (e - 23) := by
  have positive : 0 < r := lt_of_lt_of_le (by positivity) low
  have two : 1 < 2 := by decide
  have lower : e ≤ Int.log 2 r := (Int.zpow_le_iff_le_log two positive).mp (by exact_mod_cast low)
  have upper : Int.log 2 r < e + 1 :=
    (Int.lt_zpow_iff_log_lt two positive).mp (by exact_mod_cast high)
  rw [gap, abs_of_pos positive]
  congr 1
  omega

/-- A value above a power of two is not rounded below it. -/
theorem le_single {r : ℚ} {e : Int} (least : -126 ≤ e) (low : 2 ^ e ≤ r) : 2 ^ e ≤ single r := by
  have positive : 0 < r := lt_of_lt_of_le (by positivity) low
  have two : 1 < 2 := by decide
  have lower : e ≤ Int.log 2 r := (Int.zpow_le_iff_le_log two positive).mp (by exact_mod_cast low)
  have first : (2 : ℚ) ^ Int.log 2 r ≤ r := by exact_mod_cast Int.zpow_log_le_self two positive
  have last : r < (2 : ℚ) ^ (Int.log 2 r + 1) := by exact_mod_cast Int.lt_zpow_succ_log_self two r
  have width := gap_eq (by omega) first last
  have power : (2 : ℚ) ^ Int.log 2 r = (2 ^ 23 : Int) * gap r := by
    rw [width, zpow_sub₀ (by norm_num)]
    norm_num
    ring
  have mantissa : ((2 ^ 23 : Int) : ℚ) ≤ r / gap r := by
    rw [le_div_iff₀ (gap_pos r), ← power]
    exact first
  have rounded : ((2 ^ 23 : Int) : ℚ) ≤ nearestEven (r / gap r) := by
    exact_mod_cast le_nearestEven mantissa
  calc (2 : ℚ) ^ e ≤ 2 ^ Int.log 2 r := zpow_le_zpow_right₀ (by norm_num) lower
    _ = (2 ^ 23 : Int) * gap r := power
    _ ≤ single r := mul_le_mul_of_nonneg_right rounded (gap_pos r).le

/-- A value below a power of two is not rounded above it. -/
theorem single_le {r : ℚ} {e : Int} (least : -126 ≤ e) (high : r < 2 ^ e) : single r ≤ 2 ^ e := by
  have two : (2 : ℚ) ≠ 0 := by norm_num
  rcases le_or_gt r 0 with negative | positive
  · have mantissa : nearestEven (r / gap r) ≤ 0 :=
      nearestEven_le (by exact_mod_cast div_nonpos_of_nonpos_of_nonneg negative (gap_pos r).le)
    have rounded : (nearestEven (r / gap r) : ℚ) ≤ 0 := by exact_mod_cast mantissa
    calc single r ≤ 0 := mul_nonpos_of_nonpos_of_nonneg rounded (gap_pos r).le
      _ ≤ 2 ^ e := by positivity
  · have upper : Int.log 2 r < e :=
      (Int.lt_zpow_iff_log_lt (by decide) positive).mp (by exact_mod_cast high)
    -- the power is on the grid, so the number of steps to it is an integer
    obtain ⟨k, hk⟩ := Int.eq_ofNat_of_zero_le
      (show 0 ≤ e - max (Int.log 2 |r| - 23) (-149) by rw [abs_of_pos positive]; omega)
    have power : (2 : ℚ) ^ e = (2 ^ k : Int) * gap r := by
      rw [gap, show e = (k : Int) + max (Int.log 2 |r| - 23) (-149) by omega, zpow_add₀ two]
      push_cast
      rw [zpow_natCast]
    have mantissa : r / gap r ≤ (2 ^ k : Int) := by
      rw [div_le_iff₀ (gap_pos r), ← power]
      exact high.le
    have rounded : (nearestEven (r / gap r) : ℚ) ≤ (2 ^ k : Int) := by
      exact_mod_cast nearestEven_le mantissa
    rw [power]
    exact mul_le_mul_of_nonneg_right rounded (gap_pos r).le

/-- Rounding stays below a bound just if it does not go up from the last point of the grid below it. -/
theorem single_lt_iff_of_gap {r g c : ℚ} {k : Int} (width : gap r = g) (last : k * g < c)
    (next : c ≤ (k + 1) * g) :
    single r < c ↔ 2 * r < (2 * k + 1) * g ∨ 2 * r = (2 * k + 1) * g ∧ Even k := by
  have positive : 0 < g := width ▸ gap_pos r
  have units : single r < c ↔ nearestEven (r / g) ≤ k := by
    rw [single, width]
    constructor
    · intro h
      by_contra more
      have beyond : (k + 1 : ℚ) ≤ nearestEven (r / g) := by
        exact_mod_cast Int.add_one_le_iff.mpr (not_le.mp more)
      have product := mul_le_mul_of_nonneg_right beyond positive.le
      linarith
    · intro h
      have within : (nearestEven (r / g) : ℚ) ≤ k := by exact_mod_cast h
      have product := mul_le_mul_of_nonneg_right within positive.le
      linarith
  rw [units, nearestEven_le_iff, ← mul_div_assoc, div_lt_iff₀ positive, div_eq_iff positive.ne']

/-- Half a gap below `2 ^ 31` rounding goes up to it. -/
theorem single_lt_iff (r : ℚ) : single r < 2 ^ 31 ↔ r < 2 ^ 31 - 64 := by
  rcases lt_or_ge r (2 ^ 30) with small | large
  · have bound : single r ≤ 2 ^ (30 : Int) := single_le (by decide) (by exact_mod_cast small)
    norm_num at bound small
    exact iff_of_true (by linarith) (by linarith)
  · rcases lt_or_ge r (2 ^ 31) with below | above
    · have width : gap r = 128 := by
        have found := gap_eq (e := 30) (by decide) (by exact_mod_cast large)
          (by norm_num at below ⊢; exact below)
        norm_num at found
        exact found
      have odd : ¬Even ((2 : Int) ^ 24 - 1) := by decide
      rw [single_lt_iff_of_gap (k := 2 ^ 24 - 1) width (by norm_num) (by norm_num)]
      simp only [odd, and_false, or_false]
      push_cast
      constructor <;> intro h <;> linarith
    · have bound : 2 ^ (31 : Int) ≤ single r := le_single (by decide) (by exact_mod_cast above)
      norm_num at bound above
      exact iff_of_false (by linarith) (by linarith)

/-- Half a gap above `2 ^ 31` rounding goes down to it, also from the middle. -/
theorem single_lt_succ_iff (r : ℚ) : single r < 2 ^ 31 + 1 ↔ r ≤ 2 ^ 31 + 128 := by
  rcases lt_or_ge r (2 ^ 31) with small | large
  · have bound : single r ≤ 2 ^ (31 : Int) := single_le (by decide) (by exact_mod_cast small)
    norm_num at bound small
    exact iff_of_true (by linarith) (by linarith)
  · rcases lt_or_ge r (2 ^ 32) with below | above
    · have width : gap r = 256 := by
        have found := gap_eq (e := 31) (by decide) (by exact_mod_cast large)
          (by norm_num at below ⊢; exact below)
        norm_num at found
        exact found
      have even : Even ((2 : Int) ^ 23) := by decide
      rw [single_lt_iff_of_gap (k := 2 ^ 23) width (by norm_num) (by norm_num)]
      simp only [even, and_true, ← le_iff_lt_or_eq]
      push_cast
      constructor <;> intro h <;> linarith
    · have bound : 2 ^ (32 : Int) ≤ single r := le_single (by decide) (by exact_mod_cast above)
      norm_num at bound above
      exact iff_of_false (by linarith) (by linarith)

end GraphScript.CSharp
