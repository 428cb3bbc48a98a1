import GraphScript.Proofs.Binary64
import Mathlib.Data.Rat.Floor

namespace GraphScript.Binary64

theorem roundDiv_of_near {n d k : Nat} (hd : 0 < d) (low : (k : ℚ) - 1 / 2 < n / d)
    (high : (n : ℚ) / d < k + 1 / 2) : roundDiv n d = k := by
  have above : 2 * (d * k) < 2 * n + d := by
    rw [lt_div_iff₀ (by positivity)] at low
    have doubled : (2 * (d * k) : ℚ) < 2 * n + d := by linarith
    exact_mod_cast doubled
  have below : 2 * n < 2 * (d * k) + d := by
    rw [div_lt_iff₀ (by positivity)] at high
    have doubled : (2 * n : ℚ) < 2 * (d * k) + d := by linarith
    exact_mod_cast doubled
  have whole := Nat.div_add_mod n d
  have part := Nat.mod_lt n hd
  have lower : n / d ≤ k := by
    by_contra large
    have := Nat.mul_le_mul_left d (show k + 1 ≤ n / d by omega)
    rw [Nat.mul_add] at this
    omega
  have upper : k ≤ n / d + 1 := by
    by_contra small
    have := Nat.mul_le_mul_left d (show n / d + 2 ≤ k by omega)
    rw [Nat.mul_add] at this
    omega
  unfold roundDiv
  dsimp only
  rcases (show k = n / d ∨ k = n / d + 1 by omega) with same | next
  · rw [same] at above below ⊢
    rw [if_pos (by omega)]
  · rw [next, Nat.mul_add] at above below
    rw [next, if_neg (by omega), if_pos (by omega)]

/-- The nearest integer is at most half away. -/
theorem roundDiv_error (n : Nat) {d : Nat} (hd : 0 < d) :
    (roundDiv n d : ℚ) - 1 / 2 ≤ n / d ∧ (n : ℚ) / d ≤ roundDiv n d + 1 / 2 := by
  have positive : (0 : ℚ) < d := by positivity
  have whole := Nat.div_add_mod n d
  have part := Nat.mod_lt n hd
  have bounds : 2 * (d * roundDiv n d) ≤ 2 * n + d ∧ 2 * n ≤ 2 * (d * roundDiv n d) + d := by
    unfold roundDiv
    dsimp only
    split
    next => omega
    next =>
      split
      next =>
        rw [Nat.mul_add]
        omega
      next =>
        split
        next => omega
        next =>
          rw [Nat.mul_add]
          omega
  have low : (2 * (d * roundDiv n d) : ℚ) ≤ 2 * n + d := by exact_mod_cast bounds.1
  have high : (2 * n : ℚ) ≤ 2 * (d * roundDiv n d) + d := by exact_mod_cast bounds.2
  constructor
  · rw [le_div_iff₀ positive]
    linarith
  · rw [div_le_iff₀ positive]
    linarith

theorem roundDiv_mul_right (n d : Nat) {k : Nat} (hk : 0 < k) :
    roundDiv (n * k) (d * k) = roundDiv n d := by
  have twice : 2 * (n % d * k) = 2 * (n % d) * k := (Nat.mul_assoc _ _ _).symm
  unfold roundDiv
  simp only [Nat.mul_div_mul_right _ _ hk, Nat.mul_mod_mul_right, twice, Nat.mul_lt_mul_right hk]

theorem roundDiv_congr {n d n' d' : Nat} (hd : 0 < d) (hd' : 0 < d')
    (same : (n : ℚ) / d = n' / d') : roundDiv n d = roundDiv n' d' := by
  have cross : n * d' = n' * d := by
    rw [div_eq_div_iff (by positivity) (by positivity)] at same
    exact_mod_cast same
  rw [← roundDiv_mul_right n d hd', cross, Nat.mul_comm d d', roundDiv_mul_right n' d' hd]

/-- A value has a mantissa of 53 bits under one exponent only. -/
theorem exponent_le {r : ℚ} {e f : Int} (least : minExponent ≤ e) (below : r * 2 ^ (-e) < 2 ^ 53)
    (normal : 2 ^ 52 ≤ r * 2 ^ (-f) ∨ f = minExponent) : f ≤ e := by
  by_contra above
  rcases normal with normal | rfl
  · have step : (2 : ℚ) ^ (1 : Int) ≤ 2 ^ (f - e) := zpow_le_zpow_right₀ (by norm_num) (by omega)
    have wide : (2 : ℚ) ^ 53 ≤ r * 2 ^ (-e) :=
      calc (2 : ℚ) ^ 53 = 2 ^ 52 * 2 ^ (1 : Int) := by norm_num
        _ ≤ r * 2 ^ (-f) * 2 ^ (f - e) := by gcongr
        _ = r * 2 ^ (-e) := by
          rw [mul_assoc, ← zpow_add₀ (by norm_num)]
          congr 2
          ring
    linarith
  · exact above least

theorem exponentFor_eq {num den : Nat} (hn : 0 < num) (hd : 0 < den) {e : Int}
    (least : minExponent ≤ e) (below : (num : ℚ) / den * 2 ^ (-e) < 2 ^ 53)
    (normal : 2 ^ 52 ≤ (num : ℚ) / den * 2 ^ (-e) ∨ e = minExponent) : exponentFor num den = e := by
  obtain ⟨least', below', normal'⟩ := exponentFor_spec hn hd
  exact le_antisymm (exponent_le least below normal') (exponent_le least' below' normal)

/-- What a ratio rounds to, by the mantissa that is nearest under its exponent. -/
theorem ofRatio_of_exponent {negative : Bool} {num den k : Nat} {e : Int} (hn : num ≠ 0)
    (hd : 0 < den) (he : exponentFor num den = e) (low : (k : ℚ) - 1 / 2 < num / den * 2 ^ (-e))
    (high : (num : ℚ) / den * 2 ^ (-e) < k + 1 / 2) :
    ofRatio negative num den =
      if k < Nat.pow 2 53 then pack negative k e else pack negative (Nat.pow 2 52) (e + 1) := by
  obtain ⟨hs, value⟩ := scaled_value num hd e
  rw [← value] at low high
  have nearest := roundDiv_of_near hs low high
  unfold ofRatio
  simp only [if_neg hn, he, nearest]

/-- A ratio rounds to a number that it is near to. Below a power of two the gap is half as wide. -/
theorem ofRatio_of_near {negative : Bool} {num den m : Nat} {e : Int} (canonical : Canonical m e)
    (hm : m ≠ 0) (hd : 0 < den) (low : (m : ℚ) - 1 / 2 < num / den * 2 ^ (-e))
    (edge : m = 2 ^ 52 → (m : ℚ) - 1 / 4 < num / den * 2 ^ (-e))
    (high : (num : ℚ) / den * 2 ^ (-e) < m + 1 / 2) :
    ofRatio negative num den = finite negative m e canonical := by
  have two : (2 : ℚ) ≠ 0 := by norm_num
  obtain ⟨small, least, -, normal⟩ := id canonical
  have one : (1 : ℚ) ≤ m := by exact_mod_cast Nat.one_le_iff_ne_zero.mpr hm
  have nonzero : num ≠ 0 := by
    rintro rfl
    simp only [Nat.cast_zero, zero_div, zero_mul] at low
    linarith
  have positive := Nat.pos_of_ne_zero nonzero
  have below : (num : ℚ) / den * 2 ^ (-e) < 2 ^ 53 := by
    have wide : (m : ℚ) + 1 ≤ 2 ^ 53 := by exact_mod_cast small
    linarith
  by_cases full : 2 ^ 52 ≤ (num : ℚ) / den * 2 ^ (-e) ∨ e = minExponent
  · rw [ofRatio_of_exponent nonzero hd (exponentFor_eq positive hd least below full) low high,
      if_pos small, pack, dif_pos canonical]
  · -- the value is just below the least mantissa of its exponent, and rounding carries back to it
    push Not at full
    have bottom : m = 2 ^ 52 := by
      have ge : Nat.pow 2 52 ≤ m := normal.resolve_right full.2
      have lt : (m : ℚ) < ((2 ^ 52 + 1 : Nat) : ℚ) := by
        push_cast
        linarith [full.1]
      have lt' : m < 2 ^ 52 + 1 := by exact_mod_cast lt
      exact Nat.le_antisymm (Nat.lt_succ_iff.mp lt') ge
    have double : (num : ℚ) / den * 2 ^ (-(e - 1)) = 2 * (num / den * 2 ^ (-e)) := by
      rw [neg_sub, sub_eq_add_neg, zpow_add₀ two, zpow_one]
      ring
    have close := edge bottom
    rw [bottom] at close
    have exponent : exponentFor num den = e - 1 := by
      refine exponentFor_eq positive hd ?_ ?_ (.inl ?_)
      · have := full.2
        omega
      · rw [double]
        linarith [full.1]
      · rw [double]
        push_cast at close
        linarith
    rw [ofRatio_of_exponent (k := 2 ^ 53) nonzero hd exponent, if_neg (by decide)]
    · subst bottom
      rw [Int.sub_add_cancel]
      exact dif_pos canonical
    · rw [double]
      push_cast at close ⊢
      linarith
    · rw [double]
      push_cast
      linarith [full.1]

theorem ofRatio_congr {negative : Bool} {num den num' den' : Nat} (hd : 0 < den) (hd' : 0 < den')
    (same : (num : ℚ) / den = num' / den') :
    ofRatio negative num den = ofRatio negative num' den' := by
  have zero : num = 0 ↔ num' = 0 := by
    have denominator : (den : ℚ) ≠ 0 := by positivity
    have denominator' : (den' : ℚ) ≠ 0 := by positivity
    have iff : (num : ℚ) / den = 0 ↔ (num' : ℚ) / den' = 0 := by rw [same]
    simpa [denominator, denominator'] using iff
  by_cases hn : num = 0
  · rw [hn, zero.mp hn]
    rfl
  · have hn' : num' ≠ 0 := fun h => hn (zero.mpr h)
    have exponent : exponentFor num den = exponentFor num' den' := by
      obtain ⟨least, below, normal⟩ := exponentFor_spec (Nat.pos_of_ne_zero hn') hd'
      rw [← same] at below normal
      exact exponentFor_eq (Nat.pos_of_ne_zero hn) hd least below normal
    obtain ⟨hs, value⟩ := scaled_value num hd (exponentFor num' den')
    obtain ⟨hs', value'⟩ := scaled_value num' hd' (exponentFor num' den')
    have mantissa := roundDiv_congr hs hs' (by rw [value, value', same])
    unfold ofRatio
    simp only [if_neg hn, if_neg hn', exponent, mantissa]

theorem ofRatio_neg (num den : Nat) : ofRatio true num den = (ofRatio false num den).neg := by
  have packed (m : Nat) (e : Int) : pack true m e = (pack false m e).neg := by
    unfold pack
    split <;> rfl
  unfold ofRatio
  split
  next => rfl
  next =>
    dsimp only
    split
    next => exact packed _ _
    next => exact packed _ _

/-- A ratio with the magnitude of a finite number. -/
theorem ratio_value (m : Nat) (e : Int) :
    0 < (ratio m e).2 ∧ ((ratio m e).1 : ℚ) / (ratio m e).2 = m * 2 ^ e := by
  refine ⟨Nat.pow_pos (by decide), ?_⟩
  have two : (2 : ℚ) ≠ 0 := by norm_num
  have split : e = (e.toNat : Int) - ((-e).toNat : Int) := by omega
  conv_rhs => rw [split, zpow_sub₀ two, zpow_natCast, zpow_natCast]
  simp only [ratio, Nat.pow_eq, Nat.cast_mul, Nat.cast_pow, Nat.cast_ofNat, mul_div_assoc]

/-- In range, a decimal is rounded as a ratio of its value. -/
theorem ofDecimal_ratio (negative : Bool) (digits : Nat) (power : Int)
    (low : -400 ≤ (decimalLength digits : Int) + power)
    (high : (decimalLength digits : Int) + power ≤ 400) :
    ∃ num den : Nat, 0 < den ∧ (num : ℚ) / den = digits * 10 ^ power ∧
      ofDecimal negative digits power = ofRatio negative num den := by
  by_cases zero : digits = 0
  · subst zero
    exact ⟨0, 1, by decide, by simp, rfl⟩
  · unfold ofDecimal
    simp only [if_neg zero, if_neg (show ¬((decimalLength digits : Int) + power < -400) by omega),
      if_neg (show ¬(400 < (decimalLength digits : Int) + power) by omega)]
    split
    next whole =>
      refine ⟨_, 1, by decide, ?_, rfl⟩
      obtain ⟨k, rfl⟩ := Int.eq_ofNat_of_zero_le whole
      simp
    next fraction =>
      refine ⟨_, _, Nat.pow_pos (by decide), ?_, rfl⟩
      obtain ⟨k, hk⟩ := Int.eq_ofNat_of_zero_le (show 0 ≤ -power by omega)
      obtain rfl : power = -(k : Int) := by omega
      simp [div_eq_mul_inv]

theorem magnitude_lt {m : Nat} {e : Int} (canonical : Canonical m e) :
    (m : ℚ) * 2 ^ e < 10 ^ 342 := by
  have mantissa : (m : ℚ) < 2 ^ (53 : Int) := by exact_mod_cast canonical.1
  have power : (0 : ℚ) < 2 ^ e := by positivity
  calc (m : ℚ) * 2 ^ e < 2 ^ (53 : Int) * 2 ^ e := mul_lt_mul_of_pos_right mantissa power
    _ = 2 ^ (53 + e) := (zpow_add₀ (by norm_num) _ _).symm
    _ ≤ 2 ^ ((3 * 342 : Nat) : Int) := by
      refine zpow_le_zpow_right₀ (by norm_num) ?_
      have top : e ≤ 971 := canonical.2.2.1
      omega
    _ = (2 ^ 3) ^ 342 := by rw [zpow_natCast, pow_mul]
    _ ≤ 10 ^ 342 := pow_le_pow_left₀ (by norm_num) (by norm_num) 342

theorem magnitude_ge {m : Nat} {e : Int} (canonical : Canonical m e) (hm : m ≠ 0) :
    (10 : ℚ) ^ (-358 : Int) ≤ m * 2 ^ e := by
  have one : (1 : ℚ) ≤ m := by exact_mod_cast Nat.one_le_iff_ne_zero.mpr hm
  have bottom : (2 : ℚ) ^ (-1074 : Int) ≤ 2 ^ e := zpow_le_zpow_right₀ (by norm_num) canonical.2.1
  calc (10 : ℚ) ^ (-358 : Int) ≤ (2 ^ 3) ^ (-358 : Int) := by
        rw [zpow_neg, zpow_neg]
        exact inv_anti₀ (by positivity)
          (zpow_le_zpow_left₀ (by norm_num) (by norm_num) (by norm_num))
    _ = 1 * 2 ^ (-1074 : Int) := by rw [← zpow_natCast, ← zpow_mul, one_mul]; rfl
    _ ≤ m * 2 ^ e := mul_le_mul one bottom (by positivity) (by positivity)

/-- A decimal that misses a number by at most one part in `2 * 10 ^ 16` rounds to it. -/
theorem ofDecimal_of_close {digits m : Nat} {power e : Int} (canonical : Canonical m e)
    (hm : m ≠ 0) (least : -400 ≤ (decimalLength digits : Int) + power)
    (most : (decimalLength digits : Int) + power ≤ 400) {v : ℚ} (hv : v = m * 2 ^ e)
    (low : v - v / (2 * 10 ^ 16) ≤ digits * 10 ^ power)
    (high : digits * 10 ^ power ≤ v + v / (2 * 10 ^ 16)) :
    ofDecimal false digits power = finite false m e canonical := by
  obtain ⟨num, den, hd, value, read⟩ := ofDecimal_ratio false digits power least most
  have positive : (0 : ℚ) ≤ 2 ^ (-e) := by positivity
  have units : v * 2 ^ (-e) = m := by
    rw [hv, mul_assoc, ← zpow_add₀ (by norm_num), add_neg_cancel, zpow_zero, mul_one]
  -- in units of the last place the distance is below one half, at the least mantissa one quarter
  have lower : (m : ℚ) - m / (2 * 10 ^ 16) ≤ num / den * 2 ^ (-e) :=
    calc (m : ℚ) - m / (2 * 10 ^ 16) = (v - v / (2 * 10 ^ 16)) * 2 ^ (-e) := by
          rw [← units]
          ring
      _ ≤ (num : ℚ) / den * 2 ^ (-e) := by
          rw [value]
          exact mul_le_mul_of_nonneg_right low positive
  have upper : (num : ℚ) / den * 2 ^ (-e) ≤ m + m / (2 * 10 ^ 16) :=
    calc (num : ℚ) / den * 2 ^ (-e) ≤ (v + v / (2 * 10 ^ 16)) * 2 ^ (-e) := by
          rw [value]
          exact mul_le_mul_of_nonneg_right high positive
      _ = m + m / (2 * 10 ^ 16) := by
          rw [← units]
          ring
  have wide : (m : ℚ) < 2 ^ 53 := by exact_mod_cast canonical.1
  rw [read]
  refine ofRatio_of_near canonical hm hd (by linarith) (fun bottom => ?_) (by linarith)
  rw [bottom] at lower ⊢
  push_cast at lower ⊢
  linarith

theorem decimalLength_mul_ten {n : Nat} (hn : n ≠ 0) :
    decimalLength (10 * n) = decimalLength n + 1 := by
  unfold decimalLength
  rw [Nat.toDigits_of_base_le (by decide) (by omega), List.length_append,
    Nat.mul_div_cancel_left n (by decide)]
  rfl

/-- A zero at the end of the digits changes nothing. -/
theorem ofDecimal_mul_ten (negative : Bool) (digits : Nat) (power : Int) :
    ofDecimal negative (10 * digits) (power - 1) = ofDecimal negative digits power := by
  by_cases zero : digits = 0
  · rw [zero]
    rfl
  · have size : (decimalLength (10 * digits) : Int) + (power - 1) =
        decimalLength digits + power := by
      rw [decimalLength_mul_ten zero]
      push_cast
      ring
    by_cases range : -400 ≤ (decimalLength digits : Int) + power ∧
        (decimalLength digits : Int) + power ≤ 400
    · obtain ⟨num, den, hd, value, eq⟩ := ofDecimal_ratio negative digits power range.1 range.2
      obtain ⟨num', den', hd', value', eq'⟩ := ofDecimal_ratio negative (10 * digits) (power - 1)
        (size ▸ range.1) (size ▸ range.2)
      rw [eq, eq']
      refine ofRatio_congr hd' hd ?_
      rw [value, value', zpow_sub_one₀ (by norm_num)]
      push_cast
      ring
    · have tenfold : ¬10 * digits = 0 := by omega
      unfold ofDecimal
      simp only [size, if_neg zero, if_neg tenfold]
      by_cases tiny : (decimalLength digits : Int) + power < -400
      · rw [if_pos tiny, if_pos tiny]
      · have huge : 400 < (decimalLength digits : Int) + power := by omega
        rw [if_neg tiny, if_neg tiny, if_pos huge, if_pos huge]

/-- Zeros at the end of the digits change nothing. -/
theorem ofDecimal_mul_pow (negative : Bool) (digits k : Nat) (power : Int) :
    ofDecimal negative (digits * 10 ^ k) (power - k) = ofDecimal negative digits power := by
  induction k with
  | zero => simp
  | succ k ih =>
    have more := ofDecimal_mul_ten negative (digits * 10 ^ k) (power - k)
    rw [← ih, ← more]
    congr 1
    · ring
    · push_cast
      ring

theorem ofDecimal_neg (digits : Nat) (power : Int) :
    ofDecimal true digits power = (ofDecimal false digits power).neg := by
  unfold ofDecimal
  simp only [ofRatio_neg]
  split
  next => rfl
  next =>
    split
    next => rfl
    next =>
      split
      next => rfl
      next => split <;> rfl

/-- A decimal that rounds to a number rounds to its negative under a minus sign. -/
theorem ofDecimal_sign {digits m : Nat} {power e : Int} {canonical : Canonical m e}
    (h : ofDecimal false digits power = finite false m e canonical) (negative : Bool) :
    ofDecimal negative digits power = finite negative m e canonical := by
  cases negative with
  | false => exact h
  | true => rw [ofDecimal_neg, h]; rfl

/-- A positive ratio does not round to zero unless it is below one. -/
theorem ofRatio_isZero {negative : Bool} {num den : Nat} (hd : 0 < den) (h : den ≤ num) :
    (ofRatio negative num den).isZero = false := by
  have packed {m : Nat} (hm : m ≠ 0) (e : Int) : (pack negative m e).isZero = false := by
    unfold pack
    split
    next => exact beq_false_of_ne hm
    next => rfl
  have positive : 0 < num := Nat.lt_of_lt_of_le hd h
  have one : (1 : ℚ) ≤ num / den := by
    rw [le_div_iff₀ (by positivity), one_mul]
    exact_mod_cast h
  obtain ⟨-, -, normal⟩ := exponentFor_spec positive hd
  unfold ofRatio
  rw [if_neg (Nat.ne_of_gt positive)]
  generalize exponentFor num den = e at normal
  obtain ⟨hs, value⟩ := scaled_value num hd e
  have first : 1 ≤ (scaled num den e).1 / (scaled num den e).2 := by
    rw [le_quotient_iff hs, value, Nat.cast_one]
    rcases normal with normal | rfl
    · linarith
    · exact one_le_mul_of_one_le_of_one_le one (one_le_zpow₀ (by norm_num) (by decide))
  have mantissa := first.trans (roundDiv_bounds (scaled num den e).1 (scaled num den e).2).1
  dsimp only
  split
  next => exact packed (Nat.ne_of_gt mantissa) e
  next => exact packed (by decide) _

theorem ofDecimal_isZero {n : Nat} (hn : n ≠ 0) (negative : Bool) :
    (ofDecimal negative n 0).isZero = false := by
  unfold ofDecimal
  simp only [if_neg hn]
  rw [if_neg (by omega)]
  split
  next => rfl
  next => exact ofRatio_isZero Nat.one_pos (Nat.mul_pos (Nat.pos_of_ne_zero hn) Nat.one_pos)

/-- The exact value of a finite number. -/
def toRat : Binary64 → ℚ
  | finite negative m e _ => if negative then -(m * 2 ^ e) else m * 2 ^ e
  | _ => 0

theorem toRat_of_not_finite {x : Binary64} (hf : x.isFinite = false) : x.toRat = 0 := by
  cases x with
  | finite => cases hf
  | infinite => rfl
  | undefined => rfl

theorem isInteger_of_not_finite {x : Binary64} (hf : x.isFinite = false) : x.isInteger = false := by
  cases x with
  | finite => cases hf
  | infinite => rfl
  | undefined => rfl

/-- The integer part of a value, toward zero. -/
def towardZero (r : ℚ) : Int :=
  if 0 ≤ r then ⌊r⌋ else ⌈r⌉

theorem towardZero_neg (r : ℚ) : towardZero (-r) = -towardZero r := by
  unfold towardZero
  rcases lt_trichotomy r 0 with negative | rfl | positive
  · rw [if_pos (by linarith), if_neg (by linarith), Int.floor_neg]
  · simp
  · rw [if_neg (by linarith), if_pos (by linarith), Int.ceil_neg]

@[simp] theorem towardZero_intCast (k : Int) : towardZero k = k := by
  simp [towardZero]

theorem towardZero_ratio (m : Nat) (e : Int) :
    towardZero (m * 2 ^ e) = ((ratio m e).1 / (ratio m e).2 : Nat) := by
  have nonneg : (0 : ℚ) ≤ m * 2 ^ e := by positivity
  rw [towardZero, if_pos nonneg, ← (ratio_value m e).2, Rat.floor_natCast_div_natCast]
  rfl

theorem truncate?_eq {x : Binary64} (hf : x.isFinite = true) :
    x.truncate? = some (towardZero x.toRat) := by
  cases x with
  | infinite => cases hf
  | undefined => cases hf
  | finite negative m e canonical =>
    have whole := towardZero_ratio m e
    cases negative with
    | false => exact congrArg some whole.symm
    | true =>
      change some (-(((ratio m e).1 / (ratio m e).2 : Nat) : Int)) = some (towardZero (-(m * 2 ^ e)))
      rw [towardZero_neg, whole]

theorem isZero_iff {x : Binary64} (hf : x.isFinite = true) : x.isZero = true ↔ x.toRat = 0 := by
  cases x with
  | infinite => cases hf
  | undefined => cases hf
  | finite negative m e canonical =>
    have power : (2 : ℚ) ^ e ≠ 0 := by positivity
    cases negative <;> simp [isZero, toRat, power]

theorem isInteger_iff {x : Binary64} (hf : x.isFinite = true) :
    x.isInteger = true ↔ x.toRat = towardZero x.toRat := by
  cases x with
  | infinite => cases hf
  | undefined => cases hf
  | finite negative m e canonical =>
    obtain ⟨hd, value⟩ := ratio_value m e
    have denominator : ((ratio m e).2 : ℚ) ≠ 0 := by positivity
    have magnitude : (ratio m e).1 % (ratio m e).2 = 0 ↔
        (m * 2 ^ e : ℚ) = (towardZero (m * 2 ^ e) : ℚ) := by
      rw [towardZero_ratio, ← value, div_eq_iff denominator, ← Nat.dvd_iff_mod_eq_zero]
      constructor
      · intro divides
        exact_mod_cast (Nat.div_mul_cancel divides).symm
      · intro product
        exact ⟨_, by rw [Nat.mul_comm]; exact_mod_cast product⟩
    cases negative with
    | false => simpa [isInteger, toRat] using magnitude
    | true => simpa [isInteger, toRat, towardZero_neg] using magnitude

/-- The nearest integer to an integer is the integer. -/
theorem round?_eq {x : Binary64} (hi : x.isInteger = true) : x.round? = x.truncate? := by
  cases x with
  | infinite => cases hi
  | undefined => cases hi
  | finite negative m e canonical =>
    have divides : (ratio m e).1 % (ratio m e).2 = 0 := by simpa [isInteger] using hi
    have exact : roundDiv (ratio m e).1 (ratio m e).2 = (ratio m e).1 / (ratio m e).2 := by
      unfold roundDiv
      dsimp only
      rw [divides, if_pos (ratio_value m e).1]
    simp only [round?, truncate?, exact]

theorem ofDecimal_of_magnitude {m n : Nat} {e : Int} (canonical : Canonical m e) (hn : n ≠ 0)
    (value : (m : ℚ) * 2 ^ e = n) (negative : Bool) :
    ofDecimal negative n 0 = finite negative m e canonical := by
  have hm : m ≠ 0 := by
    rintro rfl
    rw [Nat.cast_zero, zero_mul] at value
    exact hn (by exact_mod_cast value.symm)
  have length : decimalLength n ≤ 342 := by
    have below := magnitude_lt canonical
    rw [value] at below
    exact (decimalLength_le_iff (by decide)).mpr (by exact_mod_cast below)
  have nonneg : (0 : ℚ) ≤ n := by positivity
  refine ofDecimal_sign ?_ negative
  apply ofDecimal_of_close canonical hm (by omega) (by omega) value.symm
  · rw [zpow_zero, mul_one]
    linarith
  · rw [zpow_zero, mul_one]
    linarith

/-- An integer that is the value of a number other than zero reads as that number. -/
theorem ofDecimal_of_toRat {x : Binary64} (hf : x.isFinite = true) {k : Int} (hk : k ≠ 0)
    (value : x.toRat = k) : ofDecimal (decide (k < 0)) k.natAbs 0 = x := by
  cases x with
  | infinite => cases hf
  | undefined => cases hf
  | finite negative m e canonical =>
    have nonneg : (0 : ℚ) ≤ m * 2 ^ e := by positivity
    have natAbs : (m : ℚ) * 2 ^ e = k.natAbs ∧ decide (k < 0) = negative := by
      cases negative with
      | false =>
        have whole : (m : ℚ) * 2 ^ e = k := value
        have above : 0 ≤ k := by exact_mod_cast whole ▸ nonneg
        obtain ⟨n, rfl⟩ := Int.eq_ofNat_of_zero_le above
        exact ⟨whole, by simp⟩
      | true =>
        have whole : -((m : ℚ) * 2 ^ e) = k := value
        have below : k ≤ 0 := by
          have : (k : ℚ) ≤ 0 := by linarith
          exact_mod_cast this
        obtain ⟨n, rfl⟩ : ∃ n : Nat, k = -(n : Int) := ⟨k.natAbs, by omega⟩
        push_cast at whole
        refine ⟨by rw [Int.natAbs_neg, Int.natAbs_natCast]; linarith, decide_eq_true ?_⟩
        omega
    rw [natAbs.2]
    exact ofDecimal_of_magnitude canonical (Int.natAbs_ne_zero.mpr hk) natAbs.1 negative

end GraphScript.Binary64
