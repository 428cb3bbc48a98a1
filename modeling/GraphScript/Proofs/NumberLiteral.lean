import GraphScript.CSharp.Literal
import GraphScript.Proofs.RoundTrip

namespace GraphScript.CSharp

theorem dropStart?_append (start cs : List Char) : dropStart? start (start ++ cs) = some cs := by
  induction start with
  | nil => cases cs <;> rfl
  | cons c start ih => simp [dropStart?, ih]

/-- What does not start with a parenthesis is no cast. -/
theorem dropStart?_intCast {cs : List Char} (h : cs.head? ≠ some '(') :
    dropStart? intCast.toList cs = none := by
  cases cs with
  | nil => rfl
  | cons c cs =>
    have other : '(' ≠ c := by
      rintro rfl
      exact h rfl
    change dropStart? ('(' :: _) (c :: cs) = none
    rw [dropStart?, if_neg other]

theorem dropSuffix_concat (cs : List Char) : dropSuffix (cs ++ ['f']) = cs := by
  simp [dropSuffix]

/-- An integer literal and its value. -/
inductive IntText : String → Int → Prop
  | digits {ds : List Char} (negative : Bool) : ds ≠ [] → AllDigits ds →
      IntText (Binary64.signText negative ++ String.ofList ds)
        (Binary64.withSign negative (Nat.ofDigitChars 10 ds 0))

/-- A float literal and the number that is nearest to the numeral before its suffix. -/
inductive FloatText : String → Binary64 → Prop
  | suffixed {cs : List Char} {n : Numeral} : Numeral.Spelled cs n →
      FloatText (String.ofList cs ++ "f") n.toBinary64

theorem intText_toString (k : Int) : IntText (toString k) k := by
  have all (n : Nat) := Decimal.allDigits_toDigits n
  have text (n : Nat) : toString n = String.ofList (Nat.toDigits 10 n) :=
    Nat.toString_eq_ofList_toDigits
  cases k with
  | ofNat n =>
    have plain := IntText.digits false Nat.toDigits_ne_nil (all n)
    rw [Nat.ofDigitChars_ten_toDigits, ← text] at plain
    exact plain
  | negSucc n =>
    have minus := IntText.digits true Nat.toDigits_ne_nil (all (n + 1))
    rw [Nat.ofDigitChars_ten_toDigits, ← text] at minus
    exact minus

/-- An integer literal is a numeral without a fraction. -/
theorem IntText.spelled {text : String} {k : Int} (h : IntText text k) :
    ∃ negative, Numeral.Spelled text.toList ⟨negative, k.natAbs, 0⟩ ∧
      (k ≠ 0 → decide (k < 0) = negative) := by
  cases h with
  | @digits ds negative hne hd =>
    have spelled := Numeral.Spelled.digits negative hne hd
    refine ⟨negative, ?_, ?_⟩
    · rw [String.toList_append, String.toList_ofList]
      cases negative <;> simpa [Binary64.withSign] using spelled
    · cases negative <;> simp [Binary64.withSign, Nat.pos_iff_ne_zero]

/-- The numeral of a literal is asked for, with a suffix or without. -/
theorem constantValue_spelled {text : String} {cs : List Char} {n : Numeral}
    (h : Numeral.Spelled cs n) (ht : text.toList = cs ∨ text.toList = cs ++ ['f']) :
    constantValue text = .ok (some n.toBinary64) := by
  have others : (Numeral.marks.all fun c => c != 'f' && c != '(') = true := by decide
  have chars : ∀ c ∈ cs, c ≠ 'f' ∧ c ≠ '(' := by
    intro c hc
    rcases h.chars c hc with digit | mark
    · constructor <;> (rintro rfl; cases digit)
    · simpa using List.all_eq_true.mp others c mark
  have unblank : Text.trimList Text.isBlank text.toList = text.toList := by
    refine trimList_of_none ?_
    rcases ht with ht | ht <;> rw [ht]
    · exact h.isBlank
    · exact List.forall_mem_append.mpr ⟨h.isBlank, List.forall_mem_singleton.mpr (by decide)⟩
  have suffix : dropSuffix text.toList = cs := by
    rcases ht with ht | ht <;> rw [ht]
    · refine if_neg fun last => (chars 'f' (List.mem_of_getLast? last)).1 rfl
    · exact dropSuffix_concat cs
  have uncast : dropStart? intCast.toList text.toList = none := by
    refine dropStart?_intCast fun head => ?_
    have first := List.mem_of_mem_head? head
    rcases ht with ht | ht <;> rw [ht] at first
    · exact (chars '(' first).2 rfl
    · rcases List.mem_append.mp first with first | first
      · exact (chars '(' first).2 rfl
      · cases List.mem_singleton.mp first
  simp only [constantValue, unblank, uncast, suffix, h.ofText?, Option.map_some]

theorem FloatText.constantValue {text : String} {y : Binary64} (h : FloatText text y) :
    CSharp.constantValue text = .ok (some y) := by
  cases h with
  | suffixed spelled =>
    refine constantValue_spelled spelled (.inr ?_)
    rw [String.toList_append, String.toList_ofList]
    rfl

/-- A cast cuts the fraction. -/
theorem FloatText.constantValue_intCast {text : String} {y : Binary64} (h : FloatText text y)
    (hf : y.isFinite = true) :
    CSharp.constantValue (intCast ++ text) =
      .ok (some (.ofRatio (Binary64.towardZero y.toRat < 0)
        (Binary64.towardZero y.toRat).natAbs 1)) := by
  cases h with
  | @suffixed cs n spelled =>
    have chars : (intCast ++ (String.ofList cs ++ "f")).toList = intCast.toList ++ (cs ++ ['f']) := by
      rw [String.toList_append, String.toList_append, String.toList_ofList]
      rfl
    have cast : (intCast.toList.all fun c => !Text.isBlank c) = true := by decide
    have unblank : Text.trimList Text.isBlank (intCast.toList ++ (cs ++ ['f'])) =
        intCast.toList ++ (cs ++ ['f']) := by
      refine trimList_of_none (List.forall_mem_append.mpr ⟨fun c hc => ?_,
        List.forall_mem_append.mpr ⟨spelled.isBlank, List.forall_mem_singleton.mpr (by decide)⟩⟩)
      simpa using List.all_eq_true.mp cast c hc
    simp only [CSharp.constantValue, chars, unblank, dropStart?_append, dropSuffix_concat,
      spelled.ofText?, Option.map_some, Binary64.truncate?_eq hf]

theorem whole_eq {x : Binary64} (hf : x.isFinite = true) :
    whole x = Binary64.towardZero x.toRat := by
  rw [whole, Binary64.truncate?_eq hf, Option.getD_some]

theorem intLiteral_eq {x : Binary64} (hf : x.isFinite = true) (hi : x.isInteger = true) :
    intLiteral x = toString (Binary64.towardZero x.toRat) := by
  rw [intLiteral, Binary64.round?_eq hi, Binary64.truncate?_eq hf, Option.getD_some]

/-- A float literal stands for the number; what is not finite is written as zero. -/
theorem floatText_floatLiteral (x : Binary64) :
    ∃ y, FloatText (floatLiteral x) y ∧ y.isFinite = true ∧ y.toRat = x.toRat := by
  unfold floatLiteral
  split
  next none =>
    have zero : x.toRat = 0 := by
      cases hf : x.isFinite with
      | true => exact (Binary64.isZero_iff hf).mp (by simpa [hf] using none)
      | false => exact Binary64.toRat_of_not_finite hf
    have spelled := Numeral.Spelled.digits false (List.cons_ne_nil '0' [])
      (Decimal.allDigits_replicate 1)
    exact ⟨_, .suffixed spelled, rfl, zero ▸ (Binary64.isZero_iff rfl).mp rfl⟩
  next some =>
    obtain ⟨hf, hz⟩ : x.isFinite = true ∧ x.isZero = false := by simpa using some
    split
    next plain =>
      have integer := (Binary64.isInteger_iff hf).mp (Bool.and_eq_true_iff.mp plain).1
      obtain ⟨negative, spelled, sign⟩ := (intText_toString (whole x)).spelled
      have text := FloatText.suffixed spelled
      rw [whole_eq hf] at text sign
      have nonzero : Binary64.towardZero x.toRat ≠ 0 := fun zero => by
        rw [zero, Int.cast_zero, ← Binary64.isZero_iff hf, hz] at integer
        cases integer
      rw [String.ofList_toList, Numeral.toBinary64, ← sign nonzero,
        Binary64.ofDecimal_of_toRat hf nonzero integer] at text
      rw [whole_eq hf]
      exact ⟨x, text, hf, rfl⟩
    next =>
      obtain ⟨n, spelled, value⟩ := Binary64.text_spelled hf
      have text := FloatText.suffixed spelled
      rw [String.ofList_toList, value] at text
      exact ⟨x, text, hf, rfl⟩

/-- A cast of a float literal has a value. -/
theorem constantValue_cast (x : Binary64) :
    ∃ r, constantValue (intCast ++ floatLiteral x) = .ok r := by
  obtain ⟨y, text, hf, -⟩ := floatText_floatLiteral x
  exact ⟨_, text.constantValue_intCast hf⟩

/-- A number literal for a target of a type, and the value that it stands for. Only an integer target
takes a cast, and only of a fraction. -/
inductive NumberText (r : ℚ) : Option FieldType → String → Prop
  | whole {type : Option FieldType} {text : String} {k : Int} : type ≠ some .float →
      IntText text k → r = k → NumberText r type text
  | float {type : Option FieldType} {text : String} {y : Binary64} : type ≠ some .int →
      FloatText text y → y.isFinite = true → y.toRat = r → NumberText r type text
  | cast {text : String} {y : Binary64} : FloatText text y → y.isFinite = true → y.toRat = r →
      (∀ k : Int, r ≠ k) → NumberText r (some .int) (intCast ++ text)

theorem numberText_numberLiteral (type : Option FieldType) {x : Binary64} (hf : x.isFinite = true) :
    NumberText x.toRat type (numberLiteral type x) := by
  have integer := Binary64.isInteger_iff hf
  obtain ⟨y, text, finite, value⟩ := floatText_floatLiteral x
  unfold numberLiteral
  split
  next =>
    split
    next hi =>
      rw [intLiteral_eq hf hi]
      exact .whole (by decide) (intText_toString _) (integer.mp hi)
    next hi =>
      refine .cast text finite value fun k hk => hi (integer.mpr ?_)
      rw [hk, Binary64.towardZero_intCast]
  next => exact .float (by decide) text finite value
  next notInt notFloat =>
    split
    next plain =>
      rw [whole_eq hf]
      exact .whole notFloat (intText_toString _) (integer.mp (Bool.and_eq_true_iff.mp plain).1)
    next => exact .float notInt text finite value

/-- What a value becomes in a target of a type: an integer target cuts its fraction. -/
def valueIn (type : Option FieldType) (r : ℚ) : ℚ :=
  if type = some .int then Binary64.towardZero r else r

theorem valueIn_of_not_finite {type : Option FieldType} {x : Binary64} (hf : x.isFinite = false) :
    valueIn type x.toRat = 0 := by
  unfold valueIn
  rw [Binary64.toRat_of_not_finite hf]
  split <;> simp [Binary64.towardZero]

/-- A number literal is a constant, and the constant is zero exactly if its value in the target is. -/
theorem NumberText.constantValue {r : ℚ} {type : Option FieldType} {text : String}
    (h : NumberText r type text) :
    ∃ y, CSharp.constantValue text = .ok (some y) ∧ (y.isZero = true ↔ valueIn type r = 0) := by
  cases h with
  | @whole _ _ k _ int value =>
    obtain ⟨negative, spelled, -⟩ := int.spelled
    refine ⟨_, constantValue_spelled spelled (.inl rfl), ?_⟩
    have inTarget : valueIn type r = k := by
      unfold valueIn
      split <;> simp [value]
    rw [inTarget, Int.cast_eq_zero]
    by_cases hk : k = 0
    · subst hk
      exact iff_of_true rfl rfl
    · refine iff_of_false ?_ hk
      rw [Numeral.toBinary64, Binary64.ofDecimal_isZero (Int.natAbs_ne_zero.mpr hk)]
      decide
  | float notInt text finite value =>
    refine ⟨_, text.constantValue, ?_⟩
    rw [Binary64.isZero_iff finite, value, valueIn, if_neg notInt]
  | cast text finite value _ =>
    refine ⟨_, text.constantValue_intCast finite, ?_⟩
    rw [valueIn, if_pos rfl, value, Int.cast_eq_zero]
    by_cases hk : Binary64.towardZero r = 0
    · rw [hk]
      exact iff_of_true rfl rfl
    · refine iff_of_false ?_ hk
      rw [Binary64.ofRatio_isZero Nat.one_pos (Int.natAbs_pos.mpr hk)]
      decide

/-- The literal of a number is a constant that is zero exactly if the number is zero in the target;
what is not finite is zero. -/
theorem constantValue_numberLiteral (type : Option FieldType) (x : Binary64) :
    ∃ y, constantValue (numberLiteral type x) = .ok (some y) ∧
      (y.isZero = true ↔ valueIn type x.toRat = 0) := by
  cases hf : x.isFinite with
  | true => exact (numberText_numberLiteral type hf).constantValue
  | false =>
    have fraction := Binary64.isInteger_of_not_finite hf
    have zero := Binary64.toRat_of_not_finite hf
    have plain : isPlain x = false := by rw [isPlain, fraction, Bool.false_and]
    obtain ⟨y, text, finite, value⟩ := floatText_floatLiteral x
    rw [valueIn_of_not_finite hf]
    unfold numberLiteral
    split
    next =>
      rw [if_neg (by simp [fraction]), text.constantValue_intCast finite, value, zero]
      exact ⟨_, rfl, iff_of_true rfl rfl⟩
    next => exact ⟨y, text.constantValue, by rw [Binary64.isZero_iff finite, value, zero]⟩
    next =>
      rw [if_neg (by simp [plain])]
      exact ⟨y, text.constantValue, by rw [Binary64.isZero_iff finite, value, zero]⟩

end GraphScript.CSharp
