import GraphScript.Number.Numeral
import Mathlib.Algebra.Order.Field.Power
import Mathlib.Data.Rat.Cast.Order
import Mathlib.Tactic.FieldSimp
import Mathlib.Tactic.Linarith
import Mathlib.Tactic.NormNum
import Mathlib.Tactic.Positivity
import Mathlib.Tactic.Ring

namespace GraphScript.Binary64

/-- Scaling by a power of a base divides the ratio by it. -/
theorem scaled_value_of_base {b : Nat} (hb : 0 < b) (num : Nat) {den : Nat} (hd : 0 < den)
    (e : Int) {r : Nat × Nat}
    (hr : r = if 0 ≤ e then (num, den * b ^ e.toNat) else (num * b ^ (-e).toNat, den)) :
    0 < r.2 ∧ (r.1 : ℚ) / r.2 = num / den * (b : ℚ) ^ (-e) := by
  have hden : (den : ℚ) ≠ 0 := by positivity
  have hbase : (b : ℚ) ≠ 0 := by positivity
  split at hr
  next he =>
    obtain ⟨k, rfl⟩ := Int.eq_ofNat_of_zero_le he
    subst hr
    refine ⟨Nat.mul_pos hd (Nat.pow_pos hb), ?_⟩
    simp only [Int.toNat_natCast, Nat.cast_mul, Nat.cast_pow, zpow_neg, zpow_natCast]
    field_simp
  next he =>
    obtain ⟨k, hk⟩ := Int.eq_ofNat_of_zero_le (show 0 ≤ -e by omega)
    subst hr
    refine ⟨hd, ?_⟩
    simp only [hk, Int.toNat_natCast, Nat.cast_mul, Nat.cast_pow, zpow_natCast]
    field_simp

theorem scaled_value (num : Nat) {den : Nat} (hd : 0 < den) (e : Int) :
    0 < (scaled num den e).2 ∧
      ((scaled num den e).1 : ℚ) / (scaled num den e).2 = num / den * 2 ^ (-e) :=
  scaled_value_of_base (b := 2) (by decide) num hd e rfl

theorem quotient_lt_iff {n d k : Nat} (hd : 0 < d) : n / d < k ↔ (n : ℚ) / d < k := by
  rw [Nat.div_lt_iff_lt_mul hd, div_lt_iff₀ (by positivity)]
  exact_mod_cast Iff.rfl

theorem le_quotient_iff {n d k : Nat} (hd : 0 < d) : k ≤ n / d ↔ (k : ℚ) ≤ (n : ℚ) / d := by
  rw [Nat.le_div_iff_mul_le hd, le_div_iff₀ (by positivity)]
  exact_mod_cast Iff.rfl

theorem roundDiv_bounds (n d : Nat) : n / d ≤ roundDiv n d ∧ roundDiv n d ≤ n / d + 1 := by
  unfold roundDiv
  dsimp only
  split
  next => omega
  next =>
    split
    next => omega
    next => split <;> omega

/-- The lengths of two numbers bound their ratio. -/
theorem ratio_bounds {num den : Nat} (hn : 0 < num) (hd : 0 < den) :
    (2 : ℚ) ^ ((num.log2 : Int) - den.log2 - 1) < num / den ∧
      (num : ℚ) / den < 2 ^ ((num.log2 : Int) - den.log2 + 1) := by
  have two : (2 : ℚ) ≠ 0 := by norm_num
  have hn1 : (2 : ℚ) ^ num.log2 ≤ num := by exact_mod_cast Nat.log2_self_le (by omega)
  have hn2 : (num : ℚ) < 2 ^ (num.log2 + 1) := by exact_mod_cast Nat.lt_log2_self
  have hd1 : (2 : ℚ) ^ den.log2 ≤ den := by exact_mod_cast Nat.log2_self_le (by omega)
  have hd2 : (den : ℚ) < 2 ^ (den.log2 + 1) := by exact_mod_cast Nat.lt_log2_self
  have hpos : (0 : ℚ) < den := by positivity
  constructor
  · rw [lt_div_iff₀ hpos, zpow_sub₀ two, zpow_sub₀ two, zpow_natCast, zpow_natCast, zpow_one]
    calc (2 : ℚ) ^ num.log2 / 2 ^ den.log2 / 2 * den
        < 2 ^ num.log2 / 2 ^ den.log2 / 2 * 2 ^ (den.log2 + 1) := by gcongr
      _ = 2 ^ num.log2 := by rw [pow_succ]; field_simp
      _ ≤ num := hn1
  · rw [div_lt_iff₀ hpos, zpow_add₀ two, zpow_sub₀ two, zpow_natCast, zpow_natCast, zpow_one]
    calc (num : ℚ) < 2 ^ (num.log2 + 1) := hn2
      _ = 2 ^ num.log2 / 2 ^ den.log2 * 2 * 2 ^ den.log2 := by rw [pow_succ]; field_simp
      _ ≤ 2 ^ num.log2 / 2 ^ den.log2 * 2 * den := by gcongr

/-- Under its exponent a ratio has a mantissa of 53 bits, unless the exponent is the least. -/
theorem exponentFor_spec {num den : Nat} (hn : 0 < num) (hd : 0 < den) :
    minExponent ≤ exponentFor num den ∧
      (num : ℚ) / den * 2 ^ (-exponentFor num den) < 2 ^ 53 ∧
      ((2 : ℚ) ^ 52 ≤ num / den * 2 ^ (-exponentFor num den) ∨
        exponentFor num den = minExponent) := by
  have two : (2 : ℚ) ≠ 0 := by norm_num
  obtain ⟨low, high⟩ := ratio_bounds hn hd
  let first : Int := (num.log2 : Int) - den.log2 - 53
  let guess : Int := max first minExponent
  have positive : (0 : ℚ) < 2 ^ (-guess) := by positivity
  obtain ⟨hs, value⟩ := scaled_value num hd guess
  have below : (num : ℚ) / den * 2 ^ (-guess) < 2 ^ 54 := by
    calc (num : ℚ) / den * 2 ^ (-guess)
        < 2 ^ ((num.log2 : Int) - den.log2 + 1) * 2 ^ (-guess) := by gcongr
      _ = 2 ^ (first + 54 - guess) := by
        rw [← zpow_add₀ two]
        congr 1
        omega
      _ ≤ 2 ^ (54 : Int) := zpow_le_zpow_right₀ (by norm_num) (by omega)
      _ = 2 ^ 54 := by norm_num
  have unfolded : exponentFor num den =
      if (num : ℚ) / den * 2 ^ (-guess) < 2 ^ 53 then guess else guess + 1 := by
    have fits : (scaled num den guess).1 / (scaled num den guess).2 < Nat.pow 2 53 ↔
        (num : ℚ) / den * 2 ^ (-guess) < 2 ^ 53 := by
      rw [quotient_lt_iff hs, value]
      norm_num
    change (if (scaled num den guess).1 / (scaled num den guess).2 < Nat.pow 2 53 then guess
      else guess + 1) = _
    simp only [fits]
  rw [unfolded]
  split
  next fits =>
    refine ⟨by omega, fits, ?_⟩
    by_cases least : guess = minExponent
    · exact .inr least
    · left
      calc (2 : ℚ) ^ 52 = 2 ^ ((num.log2 : Int) - den.log2 - 1) * 2 ^ (-guess) := by
            rw [← zpow_add₀ two, show (num.log2 : Int) - den.log2 - 1 + -guess = (52 : Nat) by omega,
              zpow_natCast]
        _ ≤ num / den * 2 ^ (-guess) := by gcongr
  next large =>
    have half : (num : ℚ) / den * 2 ^ (-(guess + 1)) = num / den * 2 ^ (-guess) / 2 := by
      rw [neg_add, zpow_add₀ two, zpow_neg_one]
      ring
    rw [half]
    refine ⟨by omega, by linarith, .inl ?_⟩
    linarith

theorem pack_isFinite {negative : Bool} {mantissa : Nat} {exponent : Int}
    (h : Canonical mantissa exponent) : (pack negative mantissa exponent).isFinite = true := by
  rw [pack, dif_pos h]
  rfl

theorem canonical_of_isFinite {negative : Bool} {mantissa : Nat} {exponent : Int}
    (h : (pack negative mantissa exponent).isFinite = true) : Canonical mantissa exponent := by
  by_contra other
  rw [pack, dif_neg other] at h
  cases h

/-- Against the bound of a ratio, its mantissa is bounded by the exponent. -/
theorem mantissa_le {num den : Nat} (hd : 0 < den) (h : num ≤ 2 ^ 1023 * den) (e : Int) :
    (num : ℚ) / den * 2 ^ (-e) ≤ 2 ^ (1023 - e) := by
  have two : (2 : ℚ) ≠ 0 := by norm_num
  have bound : (num : ℚ) / den ≤ 2 ^ (1023 : Int) := by
    rw [div_le_iff₀ (by positivity)]
    exact_mod_cast h
  calc (num : ℚ) / den * 2 ^ (-e) ≤ 2 ^ (1023 : Int) * 2 ^ (-e) := by gcongr
    _ = 2 ^ (1023 - e) := by rw [← zpow_add₀ two]; rfl

theorem exponentFor_le {num den : Nat} (hn : 0 < num) (hd : 0 < den) (h : num ≤ 2 ^ 1023 * den) :
    exponentFor num den ≤ maxExponent := by
  obtain ⟨-, -, normal⟩ := exponentFor_spec hn hd
  rcases normal with normal | least
  · have upper := normal.trans (mantissa_le hd h (exponentFor num den))
    rw [← zpow_natCast] at upper
    have below := (zpow_le_zpow_iff_right₀ (by norm_num)).mp upper
    unfold maxExponent
    omega
  · rw [least]
    decide

/-- Up to `2 ^ 1023` there is a finite nearest number. -/
theorem ofRatio_isFinite {negative : Bool} {num den : Nat} (hd : 0 < den)
    (h : num ≤ 2 ^ 1023 * den) : (ofRatio negative num den).isFinite = true := by
  unfold ofRatio
  split
  next => rfl
  next hn =>
    have positive := Nat.pos_of_ne_zero hn
    obtain ⟨least, -, normal⟩ := exponentFor_spec positive hd
    have top := exponentFor_le positive hd h
    generalize exponentFor num den = e at least normal top
    obtain ⟨hs, value⟩ := scaled_value num hd e
    obtain ⟨down, up⟩ := roundDiv_bounds (scaled num den e).1 (scaled num den e).2
    have full : 2 ^ 52 ≤ (scaled num den e).1 / (scaled num den e).2 ∨ e = minExponent := by
      rw [le_quotient_iff hs, value]
      exact_mod_cast normal
    dsimp only
    split
    next small =>
      refine pack_isFinite ⟨small, least, top, ?_⟩
      rcases full with full | rfl
      · exact .inl (full.trans down)
      · exact .inr rfl
    next large =>
      -- rounding carries into a further bit, so the exponent grows by one and must have room
      refine pack_isFinite ⟨by decide, by omega, ?_, .inl (Nat.le_refl _)⟩
      have almost : 2 ^ 53 - 1 ≤ (scaled num den e).1 / (scaled num den e).2 := by
        have carried : 2 ^ 53 ≤ roundDiv (scaled num den e).1 (scaled num den e).2 :=
          Nat.le_of_not_lt large
        omega
      rw [le_quotient_iff hs, value] at almost
      by_contra high
      have last : e = 971 := by
        unfold maxExponent at top high
        omega
      subst last
      have narrow := almost.trans (mantissa_le hd h 971)
      norm_num at narrow

/-- Only below `2 ^ 1024` there is a finite nearest number. -/
theorem lt_of_isFinite {negative : Bool} {num den : Nat} (hd : 0 < den)
    (h : (ofRatio negative num den).isFinite = true) : num < 2 ^ 1024 * den := by
  have two : (2 : ℚ) ≠ 0 := by norm_num
  by_cases hn : num = 0
  · rw [hn]
    positivity
  · obtain ⟨-, below, -⟩ := exponentFor_spec (Nat.pos_of_ne_zero hn) hd
    have top : exponentFor num den ≤ maxExponent := by
      unfold ofRatio at h
      rw [if_neg hn] at h
      dsimp only at h
      split at h
      next => exact (canonical_of_isFinite h).2.2.1
      next =>
        have room := (canonical_of_isFinite h).2.2.1
        omega
    have bound : (num : ℚ) / den < 2 ^ (1024 : Int) :=
      calc (num : ℚ) / den
          = num / den * 2 ^ (-exponentFor num den) * 2 ^ exponentFor num den := by
            rw [mul_assoc, ← zpow_add₀ two, neg_add_cancel, zpow_zero, mul_one]
        _ < 2 ^ (53 : Int) * 2 ^ exponentFor num den := by
            have positive : (0 : ℚ) < 2 ^ exponentFor num den := by positivity
            exact mul_lt_mul_of_pos_right (by exact_mod_cast below) positive
        _ = 2 ^ (53 + exponentFor num den) := (zpow_add₀ two _ _).symm
        _ ≤ 2 ^ (1024 : Int) := by
            refine zpow_le_zpow_right₀ (by norm_num) ?_
            unfold maxExponent at top
            omega
    rw [div_lt_iff₀ (by positivity)] at bound
    exact_mod_cast bound

theorem ofInt?_eq_some {n : Int} (h : n.natAbs ≤ 2 ^ 1023) :
    ofInt? n = some (ofRatio (n < 0) n.natAbs 1) := by
  have finite : (ofRatio (n < 0) n.natAbs 1).isFinite = true :=
    ofRatio_isFinite (by decide) (by rwa [Nat.mul_one])
  simp only [ofInt?, finite, if_true]

theorem natAbs_lt_of_ofInt? {n : Int} (h : (ofInt? n).isSome) : n.natAbs < 2 ^ 1024 := by
  have finite : (ofRatio (n < 0) n.natAbs 1).isFinite = true := by
    by_contra other
    simp [ofInt?, other] at h
  have bound := lt_of_isFinite (by decide) finite
  rwa [Nat.mul_one] at bound

theorem decimalLength_le_iff {n k : Nat} (hk : 0 < k) : decimalLength n ≤ k ↔ n < 10 ^ k :=
  Nat.length_toDigits_le_iff (by decide) hk

theorem decimalLength_pos (n : Nat) : 0 < decimalLength n :=
  Nat.length_toDigits_pos

theorem lt_pow_decimalLength (n : Nat) : n < 10 ^ decimalLength n :=
  (decimalLength_le_iff (decimalLength_pos n)).mp (Nat.le_refl _)

end GraphScript.Binary64
