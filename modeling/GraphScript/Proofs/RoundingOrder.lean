import GraphScript.Proofs.RoundTrip

namespace GraphScript

namespace Binary64

theorem toRat_pack {m : Nat} {e : Int} (hf : (pack false m e).isFinite = true) :
    (pack false m e).toRat = m * 2 ^ e := by
  rw [pack, dif_pos (canonical_of_isFinite hf)]
  rfl

/-- What a ratio rounds to is the nearest multiple of a power of two. -/
theorem toRat_ofRatio {num den : Nat} (hn : num ≠ 0) (hd : 0 < den) {e : Int}
    (he : exponentFor num den = e) (hf : (ofRatio false num den).isFinite = true) :
    (ofRatio false num den).toRat = roundDiv (scaled num den e).1 (scaled num den e).2 * 2 ^ e := by
  have below := (exponentFor_spec (Nat.pos_of_ne_zero hn) hd).2.1
  rw [he] at below
  obtain ⟨hs, value⟩ := scaled_value num hd e
  obtain ⟨-, up⟩ := roundDiv_bounds (scaled num den e).1 (scaled num den e).2
  have quotient : (scaled num den e).1 / (scaled num den e).2 < 2 ^ 53 := by
    rw [quotient_lt_iff hs, value]
    exact_mod_cast below
  unfold ofRatio at hf ⊢
  simp only [if_neg hn, he] at hf ⊢
  split at hf
  next small => rw [if_pos small, toRat_pack hf]
  next large =>
    have carried : roundDiv (scaled num den e).1 (scaled num den e).2 = 2 ^ 53 := by
      have least : 2 ^ 53 ≤ roundDiv (scaled num den e).1 (scaled num den e).2 := Nat.le_of_not_lt large
      omega
    rw [if_neg large, toRat_pack hf, carried, zpow_add₀ (by norm_num)]
    push_cast
    ring

/-- An integer is on the grid of fractions, so the grid point nearest to a smaller value is not above. -/
theorem le_of_nearest {q k j : Nat} {r : ℚ} (low : (q : ℚ) - 1 / 2 ≤ r * 2 ^ j) (le : r ≤ k) :
    q ≤ k * 2 ^ j := by
  have scaled : r * 2 ^ j ≤ k * 2 ^ j := by gcongr
  by_contra more
  have next : (k : ℚ) * 2 ^ j + 1 ≤ q := by exact_mod_cast not_le.mp more
  linarith

theorem ge_of_nearest {q k j : Nat} {r : ℚ} (high : r * 2 ^ j ≤ (q : ℚ) + 1 / 2) (ge : k ≤ r) :
    k * 2 ^ j ≤ q := by
  have scaled : k * 2 ^ j ≤ r * 2 ^ j := by gcongr
  by_contra less
  have next : (q : ℚ) + 1 ≤ k * 2 ^ j := by exact_mod_cast not_le.mp less
  linarith

/-- Rounding does not pass an integer of 53 bits. -/
theorem ofRatio_bounds {num den k : Nat} (hd : 0 < den) (hk : k < 2 ^ 53)
    (hf : (ofRatio false num den).isFinite = true) :
    ((num : ℚ) / den ≤ k → (ofRatio false num den).toRat ≤ k) ∧
      ((k : ℚ) ≤ num / den → k ≤ (ofRatio false num den).toRat) := by
  by_cases hn : num = 0
  · have zero : (ofRatio false num den).toRat = 0 := by
      rw [hn]
      exact (isZero_iff rfl).mp rfl
    rw [zero, hn, Nat.cast_zero, zero_div]
    exact ⟨id, id⟩
  · have two : (2 : ℚ) ≠ 0 := by norm_num
    obtain ⟨e, he⟩ : ∃ e, exponentFor num den = e := ⟨_, rfl⟩
    obtain ⟨-, -, normal⟩ := exponentFor_spec (Nat.pos_of_ne_zero hn) hd
    obtain ⟨hs, value⟩ := scaled_value num hd e
    obtain ⟨low, high⟩ := roundDiv_error (scaled num den e).1 hs
    obtain ⟨down, -⟩ := roundDiv_bounds (scaled num den e).1 (scaled num den e).2
    rw [toRat_ofRatio hn hd he hf]
    rw [value] at low high
    rw [he] at normal
    generalize roundDiv (scaled num den e).1 (scaled num den e).2 = q at low high down ⊢
    rcases le_or_gt e 0 with fine | coarse
    · obtain ⟨j, hj⟩ := Int.eq_ofNat_of_zero_le (show 0 ≤ -e by omega)
      have power : (2 : ℚ) ^ (-e) = 2 ^ j := by rw [hj, zpow_natCast]
      have unit : (2 : ℚ) ^ e = (2 ^ j)⁻¹ := by rw [← power, zpow_neg, inv_inv]
      have positive : (0 : ℚ) < 2 ^ j := by positivity
      rw [power] at low high
      rw [unit, ← div_eq_mul_inv, div_le_iff₀ positive, le_div_iff₀ positive]
      exact ⟨fun le => by exact_mod_cast le_of_nearest low le,
        fun ge => by exact_mod_cast ge_of_nearest high ge⟩
    · -- a positive exponent leaves only values beyond all integers of 53 bits
      have full := normal.resolve_right (by unfold minExponent; omega)
      have step : (2 : ℚ) ≤ 2 ^ e := by
        calc (2 : ℚ) = 2 ^ (1 : Int) := by norm_num
          _ ≤ 2 ^ e := zpow_le_zpow_right₀ (by norm_num) (by omega)
      have bound : (k : ℚ) < 2 ^ 53 := by exact_mod_cast hk
      have mantissa : (2 : ℚ) ^ 52 ≤ q := by
        have least : 2 ^ 52 ≤ (scaled num den e).1 / (scaled num den e).2 := by
          rw [le_quotient_iff hs, value]
          exact_mod_cast full
        exact_mod_cast least.trans down
      have ratio : (2 : ℚ) ^ 53 ≤ num / den := by
        have split : (num : ℚ) / den = num / den * 2 ^ (-e) * 2 ^ e := by
          rw [mul_assoc, ← zpow_add₀ two, neg_add_cancel, zpow_zero, mul_one]
        rw [split]
        nlinarith
      constructor
      · intro le
        linarith
      · intro _
        nlinarith

theorem ofDecimal_bounds {digits k : Nat} {power : Int} (hk : k < 2 ^ 53)
    (hf : (ofDecimal false digits power).isFinite = true) :
    ((digits : ℚ) * 10 ^ power ≤ k → (ofDecimal false digits power).toRat ≤ k) ∧
      ((k : ℚ) ≤ digits * 10 ^ power → k ≤ (ofDecimal false digits power).toRat) := by
  have ten : (10 : ℚ) ≠ 0 := by norm_num
  by_cases small : (decimalLength digits : Int) + power < -400
  · -- so small a decimal is zero, and no positive integer is below it
    have rounded : (ofDecimal false digits power).toRat = 0 := by
      refine (isZero_iff hf).mp ?_
      unfold ofDecimal
      dsimp only
      rw [if_pos small]
      split <;> rfl
    have below : (digits : ℚ) * 10 ^ power < 1 := by
      have length : (digits : ℚ) ≤ 10 ^ (decimalLength digits : Int) := by
        rw [zpow_natCast]
        exact_mod_cast (lt_pow_decimalLength digits).le
      calc (digits : ℚ) * 10 ^ power ≤ 10 ^ (decimalLength digits : Int) * 10 ^ power := by gcongr
        _ = 10 ^ ((decimalLength digits : Int) + power) := (zpow_add₀ ten _ _).symm
        _ < 10 ^ (0 : Int) := zpow_lt_zpow_right₀ (by norm_num) (by omega)
        _ = 1 := zpow_zero _
    rw [rounded]
    refine ⟨fun _ => by positivity, fun ge => ?_⟩
    have zero : k = 0 := by
      have : (k : ℚ) < 1 := by linarith
      exact Nat.lt_one_iff.mp (by exact_mod_cast this)
    rw [zero, Nat.cast_zero]
  · by_cases large : 400 < (decimalLength digits : Int) + power
    · by_cases zero : digits = 0
      · subst zero
        rw [show (ofDecimal false 0 power).toRat = 0 from (isZero_iff rfl).mp rfl, Nat.cast_zero, zero_mul]
        exact ⟨id, id⟩
      · unfold ofDecimal at hf
        simp only [if_neg zero, if_neg small, if_pos large] at hf
        cases hf
    · obtain ⟨num, den, hd, value, read⟩ := ofDecimal_ratio false digits power (by omega) (by omega)
      rw [read] at hf ⊢
      rw [← value]
      exact ofRatio_bounds hd hk hf

theorem toRat_neg (x : Binary64) : x.neg.toRat = -x.toRat := by
  cases x with
  | finite negative m e canonical => cases negative <;> simp [neg, toRat]
  | infinite => exact neg_zero.symm
  | undefined => exact neg_zero.symm

theorem isFinite_neg (x : Binary64) : x.neg.isFinite = x.isFinite := by
  cases x <;> rfl

end Binary64

namespace Numeral

/-- The exact value of a numeral. -/
def value (n : Numeral) : ℚ :=
  if n.negative then -(n.digits * 10 ^ n.power) else n.digits * 10 ^ n.power

/-- The number nearest to a numeral is on the same side of an integer. -/
theorem toBinary64_bounds {n : Numeral} (hf : n.toBinary64.isFinite = true) {k : Int}
    (hk : k.natAbs < 2 ^ 53) :
    (n.value ≤ k → n.toBinary64.toRat ≤ k) ∧ (k ≤ n.value → k ≤ n.toBinary64.toRat) := by
  obtain ⟨negative, digits, power⟩ := n
  have positive (hf : (Binary64.ofDecimal false digits power).isFinite = true) {k : Int}
      (hk : k.natAbs < 2 ^ 53) :
      ((digits : ℚ) * 10 ^ power ≤ k → (Binary64.ofDecimal false digits power).toRat ≤ k) ∧
        (k ≤ (digits : ℚ) * 10 ^ power → k ≤ (Binary64.ofDecimal false digits power).toRat) := by
    have magnitude : (0 : ℚ) ≤ digits * 10 ^ power := by positivity
    have least := (Binary64.ofDecimal_bounds (show 0 < 2 ^ 53 by decide) hf).2
      (by exact_mod_cast magnitude)
    rcases le_or_gt 0 k with above | below
    · obtain ⟨m, rfl⟩ := Int.eq_ofNat_of_zero_le above
      exact_mod_cast Binary64.ofDecimal_bounds hk hf
    · have strict : (k : ℚ) < 0 := by exact_mod_cast below
      rw [Nat.cast_zero] at least
      exact ⟨fun le => by linarith, fun _ => by linarith⟩
  cases negative with
  | false => exact positive hf hk
  | true =>
    have mirror : Binary64.ofDecimal true digits power = (Binary64.ofDecimal false digits power).neg :=
      Binary64.ofDecimal_neg digits power
    change (Binary64.ofDecimal true digits power).isFinite = true at hf
    change (-((digits : ℚ) * 10 ^ power) ≤ k → (Binary64.ofDecimal true digits power).toRat ≤ k) ∧
      (k ≤ -((digits : ℚ) * 10 ^ power) → k ≤ (Binary64.ofDecimal true digits power).toRat)
    rw [mirror, Binary64.isFinite_neg] at hf
    have flipped : (-k).natAbs < 2 ^ 53 := by rwa [Int.natAbs_neg]
    obtain ⟨upper, lower⟩ := positive hf flipped
    push_cast at upper lower
    rw [mirror, Binary64.toRat_neg]
    exact ⟨fun le => by linarith [lower (by linarith)], fun ge => by linarith [upper (by linarith)]⟩

end Numeral

end GraphScript
