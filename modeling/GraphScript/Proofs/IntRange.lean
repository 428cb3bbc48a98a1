import GraphScript.Proofs.InitialLiteral
import GraphScript.Proofs.RoundingOrder
import GraphScript.Proofs.Single

namespace GraphScript

namespace CSharp

/-- The integer that a constant expression stands for: a literal, or a cast of a float literal, which
has single precision and loses its fraction. -/
inductive IntConstant : String → Int → Prop
  | literal {text : String} {k : Int} : IntText text k → IntConstant text k
  | cast {cs : List Char} {n : Numeral} : Numeral.Spelled cs n →
      IntConstant (intCast ++ (String.ofList cs ++ "f")) (Binary64.towardZero (single n.value))

/-- Integers of 32 bits. -/
def IsInt32 (k : Int) : Prop :=
  -2 ^ 31 ≤ k ∧ k < 2 ^ 31

instance (k : Int) : Decidable (IsInt32 k) :=
  inferInstanceAs (Decidable (_ ∧ _))

/-- Whether an integer field can start with an expression. -/
def InitialisesInt (text : String) : Prop :=
  ∃ k, IntConstant text k ∧ IsInt32 k

/-- The values that an integer field can start with. The grid of single precision takes a fraction that
is less than 64 below the upper bound out of the range, and one that is less than 128 below the lower
bound into it. -/
def FitsInt (r : ℚ) : Prop :=
  (∃ k : Int, r = k ∧ IsInt32 k) ∨
    (∀ k : Int, r ≠ k) ∧ -(2 ^ 31 + 128) < r ∧ r < 2 ^ 31 - 64

theorem IntText.unique {text : String} {k k' : Int} (h : IntText text k) (h' : IntText text k') :
    k = k' := by
  obtain ⟨negative, spelled, sign⟩ := h.spelled
  obtain ⟨negative', spelled', sign'⟩ := h'.spelled
  have same := Option.some.inj (spelled.read.symm.trans spelled'.read)
  obtain ⟨rfl, magnitude, -⟩ := Numeral.mk.inj same
  by_cases zero : k = 0
  · omega
  · have side := (sign zero).trans (sign' (by omega)).symm
    by_cases below : k < 0
    · have below' : k' < 0 := by simpa [below] using side
      omega
    · have above' : ¬k' < 0 := by simpa [below] using side
      omega

/-- A cast is no literal. -/
theorem not_intText_cast (text : String) (k : Int) : ¬IntText (intCast ++ text) k := by
  intro h
  obtain ⟨negative, spelled, -⟩ := h.spelled
  have first : '(' ∈ (intCast ++ text).toList := by
    rw [String.toList_append]
    exact List.mem_append_left _ (by decide)
  rcases spelled.chars '(' first with digit | mark
  · cases digit
  · revert mark
    decide

theorem IntConstant.of_intText {text : String} {k k' : Int} (h : IntConstant text k)
    (int : IntText text k') : k = k' := by
  cases h with
  | literal other => exact other.unique int
  | cast => exact absurd int (not_intText_cast _ _)

theorem IntConstant.of_cast {text : String} {k : Int} (h : IntConstant text k) {cs : List Char}
    {n : Numeral} (ht : text = intCast ++ (String.ofList cs ++ "f")) (spelled : Numeral.Spelled cs n) :
    k = Binary64.towardZero (single n.value) := by
  cases h with
  | literal int =>
    rw [ht] at int
    exact absurd int (not_intText_cast _ _)
  | @cast cs' n' spelled' =>
    rw [String.append_right_inj, String.append_left_inj] at ht
    have chars := congrArg String.toList ht
    rw [String.toList_ofList, String.toList_ofList] at chars
    subst chars
    rw [Option.some.inj (spelled'.read.symm.trans spelled.read)]

theorem isInt32_towardZero_iff (s : ℚ) :
    IsInt32 (Binary64.towardZero s) ↔ -(2 ^ 31 + 1) < s ∧ s < 2 ^ 31 := by
  unfold IsInt32 Binary64.towardZero
  split
  next above =>
    have upper : ⌊s⌋ < 2 ^ 31 ↔ s < 2 ^ 31 := by
      rw [Int.floor_lt]
      norm_num
    have lower := Int.floor_nonneg.mpr above
    rw [upper]
    exact ⟨fun h => ⟨by linarith, h.2⟩, fun h => ⟨by omega, h.2⟩⟩
  next below =>
    have lower : -2 ^ 31 ≤ ⌈s⌉ ↔ -(2 ^ 31 + 1) < s := by
      rw [← Int.sub_one_lt_iff, Int.lt_ceil]
      norm_num
    have upper : ⌈s⌉ ≤ 0 := Int.ceil_le.mpr (by push_cast; linarith)
    rw [lower]
    exact ⟨fun h => ⟨h.1, by linarith⟩, fun h => ⟨h.1, by omega⟩⟩

/-- A fraction that is rounded to double precision and written is cast into the range just inside the
bounds. -/
theorem isInt32_cast_iff {n : Numeral} {r : ℚ} (finite : n.toBinary64.isFinite = true)
    (value : n.toBinary64.toRat = r) (fraction : ∀ k : Int, r ≠ k) :
    IsInt32 (Binary64.towardZero (single n.value)) ↔ -(2 ^ 31 + 128) < r ∧ r < 2 ^ 31 - 64 := by
  -- the bounds are integers, so the fraction and its numeral are on the same side of them
  have side (k : Int) (hk : k.natAbs < 2 ^ 53) : (n.value < k ↔ r < k) ∧ (k ≤ n.value ↔ k < r) := by
    obtain ⟨upper, lower⟩ := Numeral.toBinary64_bounds finite hk
    rw [value] at upper lower
    have apart := fraction k
    have below : n.value < k → r < k := fun h => lt_of_le_of_ne (upper h.le) apart
    have above : k ≤ n.value → k < r := fun h => lt_of_le_of_ne (lower h) apart.symm
    refine ⟨⟨below, fun h => ?_⟩, ⟨above, fun h => ?_⟩⟩
    · by_contra other
      exact lt_asymm h (above (not_lt.mp other))
    · by_contra other
      exact lt_asymm h (below (not_le.mp other))
  have upper : n.value < 2 ^ 31 - 64 ↔ r < 2 ^ 31 - 64 := by
    have found := (side (2 ^ 31 - 64) (by decide)).1
    norm_num at found ⊢
    exact found
  have lower : -(2 ^ 31 + 128) ≤ n.value ↔ -(2 ^ 31 + 128) < r := by
    have found := (side (-(2 ^ 31 + 128)) (by decide)).2
    norm_num at found ⊢
    exact found
  have mirrored := single_lt_succ_iff (-n.value)
  rw [single_neg, neg_lt, neg_le] at mirrored
  rw [isInt32_towardZero_iff, single_lt_iff, mirrored, lower, upper]

/-- The literal of a number is one of an integer field exactly if the number fits. -/
theorem initialisesInt_numberLiteral (x : Binary64) :
    InitialisesInt (numberLiteral (some .int) x) ↔ FitsInt x.toRat := by
  cases hf : x.isFinite with
  | false =>
    have literal : numberLiteral (some .int) x = intCast ++ "0f" := by
      rw [numberLiteral, Binary64.isInteger_of_not_finite hf, floatLiteral, hf]
      rfl
    have zero : Binary64.towardZero (single (Numeral.value ⟨false, 0, 0⟩)) = 0 := by
      simp [Numeral.value, single, nearestEven, Binary64.towardZero]
    have spelled : Numeral.Spelled ['0'] ⟨false, 0, 0⟩ :=
      .digits false (List.cons_ne_nil '0' []) (Decimal.allDigits_replicate 1)
    have constant := IntConstant.cast spelled
    rw [zero] at constant
    rw [literal, Binary64.toRat_of_not_finite hf]
    exact iff_of_true ⟨0, constant, by decide⟩ (.inl ⟨0, rfl, by decide⟩)
  | true =>
    have text := numberText_numberLiteral (some .int) hf
    generalize numberLiteral (some .int) x = literal at text ⊢
    cases text with
    | @whole _ _ k _ int value =>
      rw [value]
      constructor
      · rintro ⟨k', constant, inside⟩
        rw [constant.of_intText int] at inside
        exact .inl ⟨k, rfl, inside⟩
      · rintro (⟨k', same, inside⟩ | ⟨fraction, -⟩)
        · rw [show k' = k by exact_mod_cast same.symm] at inside
          exact ⟨k, .literal int, inside⟩
        · exact absurd rfl (fraction k)
    | float notInt => exact absurd rfl notInt
    | cast text finite value fraction =>
      cases text with
      | suffixed spelled =>
        have inside := isInt32_cast_iff finite value fraction
        constructor
        · rintro ⟨k', constant, range⟩
          rw [constant.of_cast rfl spelled] at range
          exact .inr ⟨fraction, inside.mp range⟩
        · rintro (⟨k', same, -⟩ | ⟨-, range⟩)
          · exact absurd same (fraction k')
          · exact ⟨_, .cast spelled, inside.mpr range⟩

/-- The literal of an integer field is that of the number, and zero if there is none. -/
theorem fitting?_int {value : Value} {found : Option String} (h : fitting? .int value = .ok found) :
    (∃ x, value.number? = .ok (some x) ∧ found = some (numberLiteral (some .int) x)) ∨
      value.number? = .ok none ∧ found.getD "0" = "0" := by
  unfold fitting? at h
  split at h
  next null =>
    cases h
    cases value with
    | null => exact .inr ⟨rfl, rfl⟩
    | _ => cases null
  next =>
    obtain ⟨number, read, h⟩ := ok_of_bind h
    cases h
    cases number with
    | none => exact .inr ⟨read, rfl⟩
    | some x => exact .inl ⟨x, read, rfl⟩

end CSharp

/-- For every value without too large integers an integer field starts with a literal, and the
declaration is one of an integer of 32 bits exactly if the number that the value is, if any, fits. -/
theorem initialValue_int_iff (ident : String) {value : Value} (h : value.Bounded)
    (settings : Log.Settings) :
    ∃ text, ((initialValue "int" ident value).shown settings).result = .ok text ∧
      (CSharp.InitialisesInt text ↔
        ∀ x, value.number? = .ok (some x) → CSharp.FitsInt x.toRat) := by
  have known : FieldType.ofName "int" ≠ .object := by decide
  have succeeds := initialValue_succeeds known ident h
  obtain ⟨text, result⟩ := succeeds.ends
  obtain ⟨found, fits, rfl⟩ := fitting?_of_initialValue known result
  refine ⟨_, by rw [succeeds.shown_eq, result], ?_⟩
  rcases CSharp.fitting?_int fits with ⟨x, number, rfl⟩ | ⟨none, zero⟩
  · refine (CSharp.initialisesInt_numberLiteral x).trans ⟨fun inside y other => ?_, fun all => all x number⟩
    cases number.symm.trans other
    exact inside
  · have initial : CSharp.InitialisesInt (found.getD "0") := by
      rw [zero]
      exact ⟨0, .literal (CSharp.intText_toString 0), by decide⟩
    refine iff_of_true initial fun x other => ?_
    cases none.symm.trans other

/-- Half below the lower bound a field still starts with the bound. -/
theorem initialValue_int_iff_edge :
    (Value.text "-2147483648.5").Bounded ∧
      ∃ text, ((initialValue "int" "score" (.text "-2147483648.5")).shown .silent).result = .ok text ∧
        CSharp.InitialisesInt text := by
  have bounded : (Value.text "-2147483648.5").Bounded := List.forall_mem_nil _
  have read : (Value.text "-2147483648.5").number? =
      .ok (some (Numeral.toBinary64 ⟨true, 21474836485, -1⟩)) := rfl
  have half : (Numeral.toBinary64 ⟨true, 21474836485, -1⟩).toRat = -4294967297 / 2 := by
    change -((4503599628419072 : Nat) * 2 ^ (-21 : Int) : ℚ) = -4294967297 / 2
    norm_num
  have fits : CSharp.FitsInt (-4294967297 / 2) := by
    refine .inr ⟨fun k same => ?_, by norm_num, by norm_num⟩
    have twice : (-4294967297 : ℚ) = 2 * k := by linarith
    have whole : -4294967297 = 2 * k := by exact_mod_cast twice
    omega
  obtain ⟨text, result, iff⟩ := initialValue_int_iff "score" bounded .silent
  refine ⟨bounded, text, result, iff.mpr fun x number => ?_⟩
  obtain rfl : Numeral.toBinary64 ⟨true, 21474836485, -1⟩ = x :=
    Option.some.inj (Except.ok.inj (read.symm.trans number))
  exact half ▸ fits

/-- An integer of three thousand millions is written as it is, and no field can start with it. -/
theorem initialValue_int_out_of_range :
    (Value.int 3000000000).Bounded ∧
      ((initialValue "int" "score" (.int 3000000000)).shown .silent).result = .ok "3000000000" ∧
      ¬CSharp.InitialisesInt "3000000000" := by
  have bounded : (Value.int 3000000000).Bounded := by
    intro n hn
    cases List.mem_singleton.mp hn
    decide +kernel
  refine ⟨bounded, by decide +kernel, ?_⟩
  rintro ⟨k, constant, inside⟩
  rw [constant.of_intText (CSharp.intText_toString 3000000000)] at inside
  revert inside
  decide

end GraphScript
