import GraphScript.Proofs.NumberLiteral
import GraphScript.Proofs.Statement
import GraphScript.Proofs.Total

namespace GraphScript

open Lowered

namespace Text

/-- No letter beyond the base alphabet has a given small form, if none of the runs leads to it. -/
theorem shifted_lowerRuns_ne {c d : Char} (hd : 0 < d.toNat ∧ d.toNat < 0x80)
    (none : (lowerRuns.all fun entry => ((d.toNat : Int) - entry.2.2.2).toNat < 0x80 ||
      !(CaseRun.ofEntry entry).has ((d.toNat : Int) - entry.2.2.2).toNat) = true)
    (hc : 0x80 ≤ c.toNat) : shifted lowerRuns c ≠ d := by
  unfold shifted
  split
  next entry found =>
    intro same
    have own := List.all_eq_true.mp none entry (List.mem_of_find?_eq_some found)
    have has := List.find?_some found
    have value : ((c.toNat : Int) + entry.2.2.2).toNat = d.toNat := by
      by_cases known : ((c.toNat : Int) + entry.2.2.2).toNat.isValidChar
      · rw [← same, Char.ofNat, dif_pos known]
        rfl
      · rw [Char.ofNat, dif_neg known] at same
        rw [← same] at hd
        exact absurd hd.1 (by decide)
    have back : ((d.toNat : Int) - entry.2.2.2).toNat = c.toNat := by omega
    rw [back, has, Bool.not_true, Bool.or_false, decide_eq_true_eq] at own
    omega
  next =>
    rintro rfl
    omega

/-- A word for a truth value starts with one of four letters. -/
theorem head_of_lowerFrom {cs rest : List Char} {d : Char} (hd : d = 't' ∨ d = 'f')
    (h : lowerFrom [] cs = d :: rest) : ∃ c tail, cs = c :: tail ∧ c ∈ ['t', 'T', 'f', 'F'] := by
  have base : ((List.range 0x80).all fun n => ['t', 'f'].contains (Char.ofNat n).toLower ==
      ['t', 'T', 'f', 'F'].contains (Char.ofNat n)) = true := by decide
  cases cs with
  | nil => cases h
  | cons c tail =>
    refine ⟨c, tail, rfl, ?_⟩
    unfold lowerFrom lowerChar at h
    split at h
    next small =>
      have own := List.all_eq_true.mp base c.toNat (List.mem_range.mpr small)
      have same : c.toLower = d := (List.cons.inj h).1
      rw [Char.ofNat_toNat, same] at own
      rcases hd with rfl | rfl <;> simpa using own
    next large =>
      split at h
      next =>
        split at h <;> rcases hd with rfl | rfl <;> cases (List.cons.inj h).1
      next =>
        split at h
        next => rcases hd with rfl | rfl <;> cases (List.cons.inj h).1
        next =>
          have same : shifted lowerRuns c = d := (List.cons.inj h).1
          have beyond := Nat.le_of_not_lt large
          rcases hd with rfl | rfl
          · exact absurd same (shifted_lowerRuns_ne (by decide) (by decide) beyond)
          · exact absurd same (shifted_lowerRuns_ne (by decide) (by decide) beyond)

end Text

/-- No numeral starts with a letter of a word for a truth value. -/
theorem Numeral.read?_letter {c : Char} (hc : c ∈ ['t', 'T', 'f', 'F']) (cs : List Char) :
    Numeral.read? Text.decimalValue? (c :: cs) = none := by
  have nothing {c : Char} (digit : Text.decimalValue? c = none)
      (sign : spanSign (c :: cs) = (false, c :: cs))
      (point : spanFraction Text.decimalValue? (c :: cs) = ([], c :: cs)) :
      Numeral.read? Text.decimalValue? (c :: cs) = none := by
    have start : spanDigits Text.decimalValue? (c :: cs) = ([], c :: cs) := by
      simp only [spanDigits, digit]
    simp only [read?, sign, start, point, List.isEmpty_nil, and_self, if_true]
  simp only [List.mem_cons, List.not_mem_nil, or_false] at hc
  rcases hc with rfl | rfl | rfl | rfl <;> exact nothing (by decide) rfl rfl

/-- A numeral is no word for a truth value. -/
theorem Value.flag?_of_numeral {s : String} {n : Numeral} (h : Numeral.ofText? s = some n) :
    (Value.text s).flag? = none := by
  have other {d : Char} {rest : List Char} (hd : d = 't' ∨ d = 'f') :
      Text.lower (Text.trim s) ≠ String.ofList (d :: rest) := by
    intro word
    have chars := congrArg String.toList word
    simp only [Text.lower, Text.trim, String.toList_ofList] at chars
    obtain ⟨c, tail, start, letter⟩ := Text.head_of_lowerFrom hd chars
    rw [Numeral.ofText?, start, Numeral.read?_letter letter] at h
    cases h
  unfold Value.flag?
  dsimp only
  rw [if_neg (other (.inl rfl)), if_neg (other (.inr rfl))]

namespace Context

variable {ctx : Context}

/-- An operand that is a number or a numeral, and the number. -/
inductive IsNumber (ctx : Context) : Value → Binary64 → Prop
  | int {n : Int} {x : Binary64} : Binary64.ofInt? n = some x → IsNumber ctx (.int n) x
  | float (x : Binary64) : IsNumber ctx (.float x) x
  | text {s : String} {n : Numeral} : ctx.isVariable s = false → Numeral.ofText? s = some n →
      IsNumber ctx (.text s) n.toBinary64

theorem operand_of_isNumber {value : Value} {x : Binary64} (h : ctx.IsNumber value x)
    {type : Option FieldType} (ht : type ≠ some .string) :
    ctx.operand type value = Lowered.ofExcept (.ok (CSharp.numberLiteral type x)) := by
  cases h with
  | int given =>
    simp only [operand, numberOperand, given]
  | float =>
    simp only [operand, numberOperand]
  | @text s n free numeral =>
    have literal : CSharp.valueLiteral type (.text s) =
        .ok (CSharp.numberLiteral type n.toBinary64) := by
      unfold CSharp.valueLiteral
      split
      next null => cases null
      next null => cases null
      next null _ _ => cases null
      next => exact absurd rfl ht
      next =>
        rw [Value.flag?_of_numeral numeral]
        simp only [Value.number?, numeral]
        rfl
    simp only [operand, textOperand, free, literal]
    rfl

/-- The line of a division by a constant zero. -/
def zeroLine (target zero : String) : String :=
  target ++ " = " ++ zero ++ ";  // divide by zero"

/-- The line of a division that asks for its divisor first. -/
def guardedLine (target first second zero : String) : String :=
  target ++ " = " ++ second ++ " != 0 ? " ++ first ++ " / " ++ second ++ " : " ++ zero ++ ";"

theorem zeroLine_ne_guardedLine (target first second zero : String) :
    zeroLine target zero ≠ guardedLine target first second zero := by
  intro same
  have ends := congrArg (fun text => text.toList.getLast?) same
  simp only [zeroLine, guardedLine, String.toList_append, List.getLast?_append] at ends
  cases ends

theorem lowerDivide_eq {second : String} {x : Binary64}
    (h : CSharp.constantValue second = .ok (some x)) (target first zero : String) :
    lowerDivide target first second zero =
      line (if x.isZero then zeroLine target zero else guardedLine target first second zero) := by
  unfold lowerDivide
  rw [h]
  split
  next isZero => exact if_pos isZero
  next nonzero => exact if_neg nonzero

/-- An assignment of a quotient by a number is the one line of the division. -/
theorem lowerSetVar_of_divide {p : SetVarParams} {x : Binary64} {target : String}
    {type : Option FieldType} (named : p.name ≠ "") (divide : Text.trim p.operation = "Divide")
    (ht : ctx.identifier p.name = target) (hτ : ctx.typeOf target = type)
    (typed : type ≠ some .string) (number : ctx.IsNumber p.operand2 x) :
    ctx.lowerSetVar p = ctx.operand type p.operand1 >>= fun first =>
      lowerDivide target first (CSharp.numberLiteral type x) (FieldType.zero type) := by
  have other : arithmetic? "Divide" = none := by decide
  unfold lowerSetVar
  simp only [if_neg named, ht, hτ, divide, other, operand_of_isNumber number typed]
  rfl

/-- An assignment of a quotient by a constant number is one line. If the number is zero in the target
or not finite, the line assigns the zero of the type; otherwise it divides by a literal that stands
for the number. -/
theorem lowerSetVar_divide {p : SetVarParams} {x : Binary64} {target : String}
    {type : Option FieldType} (named : p.name ≠ "") (divide : Text.trim p.operation = "Divide")
    (ht : ctx.identifier p.name = target) (hτ : ctx.typeOf target = type)
    (typed : type ≠ some .string) (fits : p.operand1.Bounded) (number : ctx.IsNumber p.operand2 x)
    (settings : Log.Settings) :
    ((ctx.lowerSetVar p).shown settings).result = .ok () ∧
      (((ctx.lowerSetVar p).shown settings).pieces =
          [.line (zeroLine target (FieldType.zero type))] ↔
        CSharp.valueIn type x.toRat = 0 ∨ x.isFinite = false) ∧
      (¬(CSharp.valueIn type x.toRat = 0 ∨ x.isFinite = false) → ∃ first second,
        ((ctx.operand type p.operand1).shown settings).result = .ok first ∧
        CSharp.NumberText x.toRat type second ∧
        ((ctx.lowerSetVar p).shown settings).pieces =
          [.line (guardedLine target first second (FieldType.zero type))]) := by
  obtain ⟨y, value, zero⟩ := CSharp.constantValue_numberLiteral type x
  have vanishes : y.isZero = true ↔ CSharp.valueIn type x.toRat = 0 ∨ x.isFinite = false := by
    rw [zero, or_iff_left_of_imp]
    exact CSharp.valueIn_of_not_finite
  have operand : (ctx.operand type p.operand1).Succeeds := operand_succeeds type p.operand1 fits
  obtain ⟨first, result⟩ := operand.ends
  have whole := lowerSetVar_of_divide named divide ht hτ typed number
  simp only [lowerDivide_eq value] at whole
  have succeeds : (ctx.lowerSetVar p).Succeeds := by
    rw [whole]
    exact (succeeds_bind _ _).mpr ⟨operand, fun _ _ => succeeds_line _⟩
  have pieces : (ctx.lowerSetVar p).pieces = [.line (if y.isZero then
      zeroLine target (FieldType.zero type)
      else guardedLine target first (CSharp.numberLiteral type x) (FieldType.zero type))] := by
    rw [whole, pieces_of_ok result, (operand_isSilent type p.operand1).pieces_eq_nil]
    rfl
  rw [succeeds.shown_eq, operand.shown_eq, pieces, ← vanishes]
  refine ⟨succeeds.ends.elim fun _ h => h, ?_, fun nonzero => ?_⟩
  · cases y.isZero with
    | true => exact iff_of_true rfl rfl
    | false =>
      refine iff_of_false (fun same => ?_) (by decide)
      exact zeroLine_ne_guardedLine _ _ _ _ (Piece.line.inj (List.cons.inj same).1).symm
  · have finite : x.isFinite = true := by
      by_contra infinite
      exact nonzero (vanishes.mpr (.inr (by simpa using infinite)))
    rw [if_neg nonzero]
    exact ⟨first, _, result, CSharp.numberText_numberLiteral type finite, rfl⟩

/-- A context with one integer variable. -/
def scoring (config : Config) : Context :=
  ⟨⟨"game", "game", none, none, none, [], .null, .null, .null, .null, .null, [], [], []⟩, config,
    [("score", .int)], [("Score", "score")]⟩

/-- An integer cannot be divided by a fraction that is cut to zero, but by a larger one. -/
theorem lowerSetVar_divide_score :
    ∃ config, Config.Draft.default.check = .ok config ∧
      (((scoring config).lowerSetVar
        ⟨"Score", "Divide", .int 7, .text "-0.75"⟩).shown .silent).pieces =
          [.line "score = 0;  // divide by zero"] ∧
      ∃ second, CSharp.NumberText (-5 / 2) (some .int) second ∧
        (((scoring config).lowerSetVar
          ⟨"Score", " Divide ", .int 7, .float (.ofDecimal true 25 (-1))⟩).shown .silent).pieces =
            [.line (guardedLine "score" "7" second "0")] := by
  obtain ⟨config, valid⟩ : ∃ config, Config.Draft.default.check = .ok config := ⟨_, rfl⟩
  have fits : (Value.int 7).Bounded := Value.allBounded_of_small (by decide)
  have ht : (scoring config).identifier "Score" = "score" := rfl
  have hτ : (scoring config).typeOf "score" = some .int := rfl
  have typed : some FieldType.int ≠ some .string := by decide
  have small : (Numeral.toBinary64 ⟨true, 75, -2⟩).toRat = -3 / 4 := by
    change -((6755399441055744 : Nat) * 2 ^ (-53 : Int) : ℚ) = -3 / 4
    norm_num
  have large : (Binary64.ofDecimal true 25 (-1)).toRat = -5 / 2 := by
    change -((5629499534213120 : Nat) * 2 ^ (-51 : Int) : ℚ) = -5 / 2
    norm_num
  refine ⟨config, valid, ?_, ?_⟩
  · have zero : CSharp.valueIn (some .int) (-3 / 4) = 0 := by
      norm_num [CSharp.valueIn, Binary64.towardZero, Int.ceil_eq_iff]
    exact (lowerSetVar_divide (p := ⟨"Score", "Divide", .int 7, .text "-0.75"⟩) (by decide)
      (by decide) ht hτ typed fits (.text rfl rfl) .silent).2.1.mpr (.inl (small ▸ zero))
  · have nonzero : CSharp.valueIn (some .int) (-5 / 2) = -2 := by
      norm_num [CSharp.valueIn, Binary64.towardZero, Int.ceil_eq_iff]
    have kept : ¬(CSharp.valueIn (some .int) (Binary64.ofDecimal true 25 (-1)).toRat = 0 ∨
        (Binary64.ofDecimal true 25 (-1)).isFinite = false) := by
      rw [large, nonzero]
      rintro (zero | infinite)
      · norm_num at zero
      · cases infinite
    obtain ⟨first, second, seven, literal, pieces⟩ := (lowerSetVar_divide
      (p := ⟨"Score", " Divide ", .int 7, .float (.ofDecimal true 25 (-1))⟩) (by decide) (by decide)
      ht hτ typed fits (.float _) .silent).2.2 kept
    obtain rfl : "7" = first := Except.ok.inj seven
    exact ⟨second, large ▸ literal, pieces⟩

end Context

end GraphScript
