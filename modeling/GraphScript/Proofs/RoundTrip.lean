import GraphScript.Number.Numeral
import GraphScript.Number.Shortest
import GraphScript.Proofs.Rounding

namespace GraphScript

/-- All characters are digits of the base alphabet. -/
abbrev AllDigits (cs : List Char) : Prop :=
  ∀ c ∈ cs, c.isDigit = true

theorem digit_bounds {c : Char} (h : c.isDigit = true) :
    48 ≤ c.toNat ∧ c.toNat ≤ 57 := by
  simp only [Char.isDigit, Bool.and_eq_true, decide_eq_true_eq, ge_iff_le, UInt32.le_iff_toNat_le] at h
  exact h

theorem decimalValue?_of_isDigit {c : Char} (h : c.isDigit = true) :
    Text.decimalValue? c = some (c.toNat - 48) := by
  have bounds := digit_bounds h
  have found : Text.decimalZeros.find? (fun first => first ≤ c.toNat && c.toNat < first + 10) =
      some 48 := by
    unfold Text.decimalZeros
    rw [List.find?_cons_of_pos]
    simp only [Bool.and_eq_true, decide_eq_true_eq]
    omega
  simp [Text.decimalValue?, found]

theorem isBlank_of_isDigit {c : Char} (h : c.isDigit = true) : Text.isBlank c = false := by
  have bounds := digit_bounds h
  simp only [Text.isBlank, Text.blanks, Text.inRanges]
  rw [if_neg (by omega), if_neg (by omega), if_neg (by omega), if_neg (by omega), if_pos (by omega)]

theorem trimList_of_none {drop : Char → Bool} {cs : List Char} (h : ∀ c ∈ cs, drop c = false) :
    Text.trimList drop cs = cs := by
  have kept (l : List Char) (hl : ∀ c ∈ l, drop c = false) : l.dropWhile drop = l := by
    cases l with
    | nil => rfl
    | cons c l => exact List.dropWhile_cons_of_neg (by simp [hl c (by simp)])
  unfold Text.trimList
  rw [kept cs h, kept cs.reverse (by simpa using h), List.reverse_reverse]

namespace Numeral

/-- Digits up to a character that is none are read as their values. -/
theorem spanDigits_append {ds rest : List Char} (hd : AllDigits ds)
    (hr : ∀ c ∈ rest.head?, Text.decimalValue? c = none) :
    spanDigits Text.decimalValue? (ds ++ rest) = (ds.map fun c => c.toNat - 48, rest) := by
  induction ds with
  | nil =>
    cases rest with
    | nil => rfl
    | cons c rest => simp [spanDigits, hr c rfl]
  | cons d ds ih =>
    have hd' := decimalValue?_of_isDigit (hd d (by simp))
    have hds := ih fun c hc => hd c (by simp [hc])
    simp [spanDigits, hd', hds]

/-- The number that digits write. -/
theorem ofDigits_map (ds : List Char) :
    ofDigits (ds.map fun c => c.toNat - 48) = Nat.ofDigitChars 10 ds 0 := by
  rw [ofDigits, List.foldl_map, Nat.ofDigitChars_eq_foldl]
  rfl

/-- The digits after a point, with the point unless there are none. -/
def dotted (fraction : List Char) : List Char :=
  if fraction.isEmpty then [] else '.' :: fraction

/-- The end of a numeral: nothing, or a mark, a sign and digits. -/
inductive Exponent : List Char → Int → Prop
  | none : Exponent [] 0
  | signed {sign : Char} {ds : List Char} : sign = '+' ∨ sign = '-' → ds ≠ [] → AllDigits ds →
      Exponent ('e' :: sign :: ds)
        (Binary64.withSign (sign == '-') (Nat.ofDigitChars 10 ds 0))

theorem Exponent.read {cs : List Char} {power : Int} (h : Exponent cs power) :
    exponent? Text.decimalValue? cs = some power := by
  cases h with
  | none => rfl
  | @signed sign ds hs hne hd =>
    have span : spanDigits Text.decimalValue? (ds ++ []) = (ds.map fun c => c.toNat - 48, []) :=
      spanDigits_append hd (by simp)
    rw [List.append_nil] at span
    obtain ⟨d, ds, rfl⟩ := List.exists_cons_of_ne_nil hne
    rcases hs with rfl | rfl
    · simp only [exponent?, spanSign, span, ← ofDigits_map]
      rfl
    · simp only [exponent?, spanSign, span, ← ofDigits_map]
      rfl

theorem Exponent.head {cs : List Char} {power : Int} (h : Exponent cs power) :
    ∀ c ∈ cs.head?, c = 'e' := by
  cases h <;> simp

theorem spanSign_of_isDigit {c : Char} {cs : List Char} (h : c.isDigit = true) :
    spanSign (c :: cs) = (false, c :: cs) := by
  unfold spanSign
  split
  next he => cases he; cases h
  next he => cases he; cases h
  next => rfl

theorem spanFraction_dotted {fraction exponent : List Char} {power : Int} (hf : AllDigits fraction)
    (he : Exponent exponent power) :
    spanFraction Text.decimalValue? (dotted fraction ++ exponent) =
      (fraction.map fun c => c.toNat - 48, exponent) := by
  cases fraction with
  | nil => cases he <;> rfl
  | cons c fraction =>
    have ends : ∀ c ∈ exponent.head?, Text.decimalValue? c = none := fun c hc => by
      rw [he.head c hc]
      decide
    exact spanDigits_append hf ends

theorem spanSign_of_digits {whole rest : List Char} (hne : whole ≠ []) (hw : AllDigits whole) :
    spanSign (whole ++ rest) = (false, whole ++ rest) := by
  obtain ⟨c, whole, rfl⟩ := List.exists_cons_of_ne_nil hne
  exact spanSign_of_isDigit (hw c (by simp))

/-- A numeral in its parts: a minus sign at most, digits, a fraction and an exponent. -/
inductive Spelled : List Char → Numeral → Prop
  | parts {whole fraction exponent : List Char} {power : Int} (negative : Bool) : whole ≠ [] →
      AllDigits whole → AllDigits fraction → Exponent exponent power →
      Spelled ((Binary64.signText negative).toList ++ (whole ++ (dotted fraction ++ exponent)))
        ⟨negative, Nat.ofDigitChars 10 (whole ++ fraction) 0, power - fraction.length⟩

theorem Spelled.digits {ds : List Char} (negative : Bool) (hne : ds ≠ []) (hd : AllDigits ds) :
    Spelled ((Binary64.signText negative).toList ++ ds) ⟨negative, Nat.ofDigitChars 10 ds 0, 0⟩ := by
  have spelled : Spelled (_ ++ (ds ++ (dotted [] ++ []))) _ :=
    .parts negative hne hd (List.forall_mem_nil _) .none
  simpa [dotted] using spelled

/-- A numeral that is written in its parts is read. -/
theorem Spelled.read {cs : List Char} {n : Numeral} (h : Spelled cs n) :
    read? Text.decimalValue? cs = some n := by
  cases h with
  | @parts whole fraction exponent power negative hne hw hf he =>
    have stops : ∀ c ∈ (dotted fraction ++ exponent).head?, Text.decimalValue? c = none := by
      intro c hc
      cases fraction with
      | nil =>
        rw [he.head c hc]
        decide
      | cons d fraction =>
        cases hc
        decide
    have sign : spanSign ((Binary64.signText negative).toList ++
        (whole ++ (dotted fraction ++ exponent))) =
          (negative, whole ++ (dotted fraction ++ exponent)) := by
      cases negative with
      | false =>
        change spanSign (whole ++ (dotted fraction ++ exponent)) = _
        exact spanSign_of_digits hne hw
      | true => rfl
    have nonempty : ¬((whole.map fun c => c.toNat - 48).isEmpty = true ∧
        (fraction.map fun c => c.toNat - 48).isEmpty = true) := by
      simp [hne]
    simp only [read?, sign, spanDigits_append hw stops, spanFraction_dotted hf he, if_neg nonempty,
      he.read, Option.map_some, ← List.map_append, ofDigits_map, List.length_map]

/-- What a numeral holds apart from digits. -/
def marks : List Char :=
  ['-', '+', '.', 'e']

theorem Spelled.chars {cs : List Char} {n : Numeral} (h : Spelled cs n) :
    ∀ c ∈ cs, c.isDigit = true ∨ c ∈ marks := by
  have digits {ds : List Char} (hd : AllDigits ds) : ∀ c ∈ ds, c.isDigit = true ∨ c ∈ marks :=
    fun c hc => .inl (hd c hc)
  cases h with
  | @parts whole fraction exponent power negative hne hw hf he =>
    have sign : ∀ c ∈ (Binary64.signText negative).toList, c.isDigit = true ∨ c ∈ marks := by
      cases negative with
      | false => simp [Binary64.signText]
      | true => exact List.forall_mem_singleton.mpr (.inr (by decide))
    have point : ∀ c ∈ dotted fraction, c.isDigit = true ∨ c ∈ marks := by
      unfold dotted
      split
      next => simp
      next => exact List.forall_mem_cons.mpr ⟨.inr (by decide), digits hf⟩
    have ending : ∀ c ∈ exponent, c.isDigit = true ∨ c ∈ marks := by
      cases he with
      | none => simp
      | @signed sign ds hs _ hd =>
        have mark : sign ∈ marks := by rcases hs with rfl | rfl <;> decide
        exact List.forall_mem_cons.mpr ⟨.inr (by decide),
          List.forall_mem_cons.mpr ⟨.inr mark, digits hd⟩⟩
    simp only [List.forall_mem_append]
    exact ⟨sign, digits hw, point, ending⟩

theorem Spelled.isBlank {cs : List Char} {n : Numeral} (h : Spelled cs n) :
    ∀ c ∈ cs, Text.isBlank c = false := by
  have unblank : (marks.all fun c => !Text.isBlank c) = true := by decide
  intro c hc
  rcases h.chars c hc with digit | mark
  · exact isBlank_of_isDigit digit
  · simpa using List.all_eq_true.mp unblank c mark

theorem Spelled.ofText? {cs : List Char} {n : Numeral} (h : Spelled cs n) :
    Numeral.ofText? (String.ofList cs) = some n := by
  rw [Numeral.ofText?, String.toList_ofList, trimList_of_none h.isBlank, h.read]

end Numeral

namespace Decimal

theorem allDigits_toDigits (n : Nat) : AllDigits (Nat.toDigits 10 n) :=
  fun _ hc => Nat.isDigit_of_mem_toDigits (by decide) (by decide) hc

theorem allDigits_replicate (count : Nat) : AllDigits (List.replicate count '0') := by
  intro c hc
  rw [(List.mem_replicate.mp hc).2]
  decide

/-- The digits of an exponent, at least two. -/
def paddedDigits (n : Nat) : List Char :=
  if (Nat.toDigits 10 n).length < 2 then '0' :: Nat.toDigits 10 n else Nat.toDigits 10 n

theorem exponentText_toList (exponent : Int) :
    (exponentText exponent).toList =
      'e' :: (if exponent < 0 then '-' else '+') :: paddedDigits exponent.natAbs := by
  have digits : (toString exponent.natAbs).toList = Nat.toDigits 10 exponent.natAbs := by
    rw [Nat.toString_eq_ofList_toDigits, String.toList_ofList]
  have length : (toString exponent.natAbs).length = (Nat.toDigits 10 exponent.natAbs).length := by
    rw [← digits, String.length_toList]
  unfold exponentText paddedDigits
  simp only [String.toList_append, length]
  split <;> split <;> simp

theorem allDigits_paddedDigits (n : Nat) : AllDigits (paddedDigits n) := by
  unfold paddedDigits
  split
  next => exact List.forall_mem_cons.mpr ⟨by decide, allDigits_toDigits n⟩
  next => exact allDigits_toDigits n

theorem paddedDigits_ne_nil (n : Nat) : paddedDigits n ≠ [] := by
  unfold paddedDigits
  split
  next => exact List.cons_ne_nil _ _
  next => exact Nat.toDigits_ne_nil

theorem ofDigitChars_paddedDigits (n : Nat) : Nat.ofDigitChars 10 (paddedDigits n) 0 = n := by
  unfold paddedDigits
  split
  next =>
    rw [Nat.ofDigitChars_cons]
    exact Nat.ofDigitChars_ten_toDigits
  next => exact Nat.ofDigitChars_ten_toDigits

/-- The text of an exponent writes the exponent. -/
theorem exponentText_spelled (exponent : Int) :
    Numeral.Exponent (exponentText exponent).toList exponent := by
  have spelled {sign : Char} (hs : sign = '+' ∨ sign = '-') :=
    Numeral.Exponent.signed hs (paddedDigits_ne_nil exponent.natAbs)
      (allDigits_paddedDigits exponent.natAbs)
  simp only [ofDigitChars_paddedDigits] at spelled
  rw [exponentText_toList]
  split
  next negative =>
    have value : Binary64.withSign ('-' == '-') exponent.natAbs = exponent := by
      change -(exponent.natAbs : Int) = exponent
      omega
    have minus := spelled (.inr rfl)
    rwa [value] at minus
  next positive =>
    have value : Binary64.withSign ('+' == '-') exponent.natAbs = exponent := by
      change (exponent.natAbs : Int) = exponent
      omega
    have plus := spelled (.inl rfl)
    rwa [value] at plus

/-- A text of parts reads as a decimal if it writes its digits with some zeros behind them. -/
theorem reads_of_parts {d : Decimal} {text : String} {whole fraction ending : List Char} {power : Int}
    (negative : Bool) (hne : whole ≠ []) (hw : AllDigits whole) (hf : AllDigits fraction)
    (he : Numeral.Exponent ending power)
    (ht : text.toList = whole ++ (Numeral.dotted fraction ++ ending)) (k : Nat)
    (digits : Nat.ofDigitChars 10 (whole ++ fraction) 0 = d.digits * 10 ^ k)
    (last : power - fraction.length = d.power - k) :
    ∃ n, Numeral.Spelled ((Binary64.signText negative).toList ++ text.toList) n ∧
      n.toBinary64 = Binary64.ofDecimal negative d.digits d.power := by
  rw [ht]
  refine ⟨_, .parts negative hne hw hf he, ?_⟩
  rw [Numeral.toBinary64, digits, last, Binary64.ofDecimal_mul_pow]

/-- The text of a decimal reads as the decimal. -/
theorem write_reads (negative : Bool) (d : Decimal) :
    ∃ n, Numeral.Spelled ((Binary64.signText negative).toList ++
        (d.write Binary64.fullLayout).toList) n ∧
      n.toBinary64 = Binary64.ofDecimal negative d.digits d.power := by
  have all := allDigits_toDigits d.digits
  have positive : 0 < (Nat.toDigits 10 d.digits).length := Nat.length_toDigits_pos
  have value : Nat.ofDigitChars 10 (Nat.toDigits 10 d.digits) 0 = d.digits :=
    Nat.ofDigitChars_ten_toDigits
  unfold write Binary64.fullLayout
  dsimp only
  generalize Nat.toDigits 10 d.digits = digits at all positive value ⊢
  generalize hx : d.power + (digits.length : Int) - 1 = exponent
  have taken (n : Nat) : AllDigits (digits.take n) := fun c hc => all c (List.mem_of_mem_take hc)
  have dropped (n : Nat) : AllDigits (digits.drop n) := fun c hc => all c (List.mem_of_mem_drop hc)
  have nonempty : digits ≠ [] := List.ne_nil_of_length_pos positive
  have start {n : Nat} (hn : 0 < n) : digits.take n ≠ [] :=
    List.ne_nil_of_length_pos (by rw [List.length_take]; omega)
  -- with an exponent, below one, without a fraction, and with digits on both sides of the point
  split
  next =>
    refine reads_of_parts negative (start Nat.one_pos) (taken 1) (dropped 1)
      (exponentText_spelled exponent) ?_ 0 ?_ ?_
    · unfold Numeral.dotted
      split <;> simp
    · rw [List.take_append_drop, value, pow_zero, Nat.mul_one]
    · rw [List.length_drop]
      omega
  next =>
    split
    next =>
      have zeros : AllDigits (List.replicate (-exponent - 1).toNat '0' ++ digits) := fun c hc =>
        (List.mem_append.mp hc).elim (allDigits_replicate _ c) (all c)
      refine reads_of_parts negative (List.cons_ne_nil _ _) (allDigits_replicate 1) zeros .none
        ?_ 0 ?_ ?_
      · simp [Numeral.dotted, Decimal.zeros, nonempty]
      · simp [Nat.ofDigitChars_append, Nat.ofDigitChars_cons, Nat.ofDigitChars_replicate_zero, value]
      · rw [List.length_append, List.length_replicate]
        omega
    next =>
      split
      next =>
        have zeros : AllDigits (digits ++ List.replicate (exponent.toNat + 1 - digits.length) '0') :=
          fun c hc => (List.mem_append.mp hc).elim (all c) (allDigits_replicate _ c)
        refine reads_of_parts negative (by simp [nonempty]) zeros (allDigits_replicate 1) .none
          ?_ (exponent.toNat + 1 - digits.length + 1) ?_ ?_
        · simp [Numeral.dotted, Decimal.zeros]
        · rw [List.append_assoc, ← List.replicate_add, Nat.ofDigitChars_append, value,
            Nat.ofDigitChars_replicate_zero, Nat.mul_comm]
        · rw [List.length_replicate]
          omega
      next =>
        have rest : digits.drop (exponent.toNat + 1) ≠ [] :=
          List.ne_nil_of_length_pos (by rw [List.length_drop]; omega)
        refine reads_of_parts negative (start (Nat.succ_pos _)) (taken (exponent.toNat + 1))
          (dropped (exponent.toNat + 1)) .none ?_ 0 ?_ ?_
        · unfold Numeral.dotted
          rw [if_neg (by simpa using rest)]
          simp
        · rw [List.take_append_drop, value, pow_zero, Nat.mul_one]
        · rw [List.length_drop]
          omega

/-- Zeros that are dropped do not change what a decimal reads as. -/
theorem stripZeros_reads (negative : Bool) (fuel : Nat) (d : Decimal) :
    Binary64.ofDecimal negative (stripZeros fuel d).digits (stripZeros fuel d).power =
      Binary64.ofDecimal negative d.digits d.power := by
  induction fuel generalizing d with
  | zero => rfl
  | succ fuel ih =>
    unfold stripZeros
    split
    next h =>
      have tenfold := Binary64.ofDecimal_mul_ten negative (d.digits / 10) (d.power + 1)
      rw [Nat.mul_div_cancel' (Nat.dvd_of_mod_eq_zero h.2), Int.add_sub_cancel] at tenfold
      rw [ih, tenfold]
    next => rfl

theorem onGrid_value (num : Nat) {den : Nat} (hd : 0 < den) (power : Int) :
    0 < (onGrid num den power).2 ∧
      ((onGrid num den power).1 : ℚ) / (onGrid num den power).2 = num / den * 10 ^ (-power) :=
  Binary64.scaled_value_of_base (by decide) num hd power rfl

theorem pow_le_of_decimalLength {n : Nat} (hn : 0 < n) :
    10 ^ (Binary64.decimalLength n - 1) ≤ n := by
  by_contra small
  by_cases one : Binary64.decimalLength n - 1 = 0
  · rw [one, pow_zero] at small
    omega
  · have short := (Binary64.decimalLength_le_iff (Nat.pos_of_ne_zero one)).mpr
      (Nat.lt_of_not_le small)
    have positive := Binary64.decimalLength_pos n
    omega

theorem inv_pow_le_iff {num den k : Nat} (hd : 0 < den) :
    (10 : ℚ) ^ (-(k : Int)) ≤ num / den ↔ den ≤ num * 10 ^ k := by
  rw [zpow_neg, zpow_natCast, le_div_iff₀ (by positivity), inv_mul_le_iff₀ (by positivity),
    mul_comm]
  exact_mod_cast Iff.rfl

/-- The power of the first digit, which is not zero. -/
theorem leadingPower_bounds {num den : Nat} (hn : 0 < num) (hd : 0 < den) :
    (10 : ℚ) ^ leadingPower num den ≤ num / den ∧
      (num : ℚ) / den < 10 ^ (leadingPower num den + 1) := by
  unfold leadingPower
  split
  next large =>
    have positive := Binary64.decimalLength_pos (num / den)
    have below := Binary64.lt_pow_decimalLength (num / den)
    have above := pow_le_of_decimalLength (Nat.div_pos large hd)
    generalize Binary64.decimalLength (num / den) = length at positive below above
    obtain ⟨k, rfl⟩ : ∃ k, length = k + 1 := ⟨length - 1, by omega⟩
    rw [Binary64.quotient_lt_iff hd] at below
    rw [Binary64.le_quotient_iff hd] at above
    have first : ((k + 1 : Nat) : Int) - 1 = k := by omega
    have next : (k : Int) + 1 = (k + 1 : Nat) := rfl
    rw [first, next, zpow_natCast, zpow_natCast]
    exact_mod_cast And.intro above below
  next small =>
    have positive := Binary64.decimalLength_pos (den / num)
    have below := Binary64.lt_pow_decimalLength (den / num)
    have above := pow_le_of_decimalLength (Nat.div_pos (Nat.le_of_lt (Nat.lt_of_not_le small)) hn)
    generalize Binary64.decimalLength (den / num) = length at positive below above
    obtain ⟨k, rfl⟩ : ∃ k, length = k + 1 := ⟨length - 1, by omega⟩
    rw [Nat.div_lt_iff_lt_mul hn] at below
    rw [Nat.add_sub_cancel, Nat.le_div_iff_mul_le hn] at above
    dsimp only
    rw [Nat.add_sub_cancel]
    split
    next exact =>
      have first : 1 - ((k + 1 : Nat) : Int) = -(k : Int) := by omega
      have lower := (inv_pow_le_iff (k := k) hd).mpr exact
      have upper : (num : ℚ) / den ≤ 10 ^ (-(k : Int)) := by
        rw [zpow_neg, zpow_natCast, div_le_iff₀ (by positivity), le_inv_mul_iff₀ (by positivity)]
        exact_mod_cast above
      rw [first]
      refine ⟨lower, upper.trans_lt ?_⟩
      exact zpow_lt_zpow_right₀ (by norm_num) (by omega)
    next less =>
      have lower := (inv_pow_le_iff (k := k + 1) hd).mpr (by rw [Nat.mul_comm]; exact below.le)
      have next : -((k + 1 : Nat) : Int) + 1 = -(k : Int) := by omega
      refine ⟨lower, lt_of_not_ge fun h => less ?_⟩
      rw [next] at h
      exact (inv_pow_le_iff hd).mp h

/-- The power of the first digit of a number of double precision is in range. -/
theorem leadingPower_range {m num den : Nat} {e : Int} (canonical : Binary64.Canonical m e)
    (hm : m ≠ 0) (hn : 0 < num) (hd : 0 < den) (value : (num : ℚ) / den = m * 2 ^ e) :
    -358 ≤ leadingPower num den ∧ leadingPower num den ≤ 342 := by
  have ten : (1 : ℚ) < 10 := by norm_num
  obtain ⟨low, high⟩ := leadingPower_bounds hn hd
  rw [value] at low high
  have least := (zpow_lt_zpow_iff_right₀ ten).mp ((Binary64.magnitude_ge canonical hm).trans_lt high)
  have most := low.trans (Binary64.magnitude_lt canonical).le
  rw [← zpow_natCast, zpow_le_zpow_iff_right₀ ten] at most
  omega

/-- Seventeen digits of a number read back as the number. -/
theorem seventeen_digits {m num den : Nat} {e : Int} (canonical : Binary64.Canonical m e)
    (hm : m ≠ 0) (hd : 0 < den) (value : (num : ℚ) / den = m * 2 ^ e) (power : Int)
    (hp : power = leadingPower num den - 16) :
    Binary64.ofDecimal false
        (Binary64.roundDiv (onGrid num den power).1 (onGrid num den power).2) power =
      .finite false m e canonical := by
  have ten : (0 : ℚ) < 10 ^ power := by positivity
  have positive : 0 < num := by
    have mantissa : (0 : ℚ) < m := by exact_mod_cast Nat.pos_of_ne_zero hm
    have ratio : (0 : ℚ) < num / den := by rw [value]; positivity
    by_contra zero
    simp [Nat.eq_zero_of_not_pos zero] at ratio
  obtain ⟨low, high⟩ := leadingPower_bounds positive hd
  obtain ⟨least, most⟩ := leadingPower_range canonical hm positive hd value
  obtain ⟨hg, grid⟩ := onGrid_value num hd power
  obtain ⟨above, below⟩ := Binary64.roundDiv_error (onGrid num den power).1 hg
  have carried := (Binary64.roundDiv_bounds (onGrid num den power).1 (onGrid num den power).2).2
  have quotient : (onGrid num den power).1 / (onGrid num den power).2 < 10 ^ 17 := by
    have next : leadingPower num den + 1 = (17 : Nat) + power := by
      rw [hp]
      push_cast
      ring
    rw [Binary64.quotient_lt_iff hg, grid, zpow_neg, ← div_eq_mul_inv, div_lt_iff₀ ten]
    rw [next, zpow_add₀ (by norm_num), zpow_natCast] at high
    exact_mod_cast high
  generalize Binary64.roundDiv (onGrid num den power).1 (onGrid num den power).2 = near
    at above below carried ⊢
  have length : Binary64.decimalLength near ≤ 18 :=
    (Binary64.decimalLength_le_iff (by decide)).mpr (by omega)
  have first : (10 : ℚ) ^ power * 10 ^ 16 ≤ num / den := by
    rw [hp, zpow_sub₀ (by norm_num)]
    field_simp
    rwa [le_div_iff₀ (by positivity)] at low
  rw [grid, zpow_neg, ← div_eq_mul_inv, le_div_iff₀ ten] at above
  rw [grid, zpow_neg, ← div_eq_mul_inv, div_le_iff₀ ten] at below
  refine Binary64.ofDecimal_of_close canonical hm (by omega) (by omega) value ?_ ?_ <;> linarith

/-- The shortest decimal of a number reads back as the number. -/
theorem shortest_reads {m : Nat} {e : Int} (canonical : Binary64.Canonical m e) (hm : m ≠ 0)
    (negative : Bool) :
    Binary64.ofDecimal negative (shortest m e canonical).digits (shortest m e canonical).power =
      .finite negative m e canonical := by
  obtain ⟨hd, value⟩ := Binary64.ratio_value m e
  refine Binary64.ofDecimal_sign ?_ negative
  unfold shortest
  dsimp only
  split
  next d found =>
    obtain ⟨places, -, hd⟩ := List.exists_of_findSome?_eq_some found
    rw [stripZeros_reads]
    unfold readsBack? at hd
    dsimp only at hd
    rcases ite_eq_iff.mp hd with ⟨reads, hd⟩ | ⟨-, hd⟩
    · cases hd
      exact reads
    · rcases ite_eq_iff.mp hd with ⟨reads, hd⟩ | ⟨-, hd⟩
      · cases hd
        exact reads
      · cases hd
  next =>
    rw [stripZeros_reads]
    exact seventeen_digits canonical hm hd value _ rfl

end Decimal

/-- The text of a finite number spells a numeral whose value is the number. -/
theorem Binary64.text_spelled {x : Binary64} (hf : x.isFinite = true) :
    ∃ n, Numeral.Spelled x.text.toList n ∧ n.toBinary64 = x := by
  cases x with
  | infinite => cases hf
  | undefined => cases hf
  | finite negative m e canonical =>
    unfold Binary64.text
    rw [String.toList_append]
    split
    next zero =>
      subst zero
      obtain rfl : e = minExponent := canonical.2.2.2.resolve_left (by decide)
      exact ⟨_, .parts negative (List.cons_ne_nil _ _) (Decimal.allDigits_replicate 1)
        (Decimal.allDigits_replicate 1) .none, rfl⟩
    next hm =>
      obtain ⟨n, spelled, value⟩ := Decimal.write_reads negative (Decimal.shortest m e canonical)
      exact ⟨n, spelled, value.trans (Decimal.shortest_reads canonical hm negative)⟩

end GraphScript
