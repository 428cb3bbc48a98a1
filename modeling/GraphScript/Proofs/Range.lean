import GraphScript.Lowering.Action
import GraphScript.Proofs.Bodies
import GraphScript.Proofs.Conversion
import GraphScript.Proofs.Rounding
import Mathlib.Data.EReal.Basic

namespace GraphScript

namespace Binary64

/-- The place of a number on the extended line; the undefined number has none. -/
noncomputable def extended? : Binary64 → Option EReal
  | finite negative m e canonical => some ((finite negative m e canonical).toRat : ℝ)
  | infinite false => some ⊤
  | infinite true => some ⊥
  | undefined => none

theorem isNegative_iff {x : Binary64} (hf : x.isFinite = true) : x.isNegative = true ↔ x.toRat < 0 := by
  cases x with
  | infinite => cases hf
  | undefined => cases hf
  | finite negative m e canonical =>
    have power : (0 : ℚ) < 2 ^ e := by positivity
    cases negative with
    | false =>
      have nonneg : (0 : ℚ) ≤ m * 2 ^ e := by positivity
      exact iff_of_false Bool.false_ne_true (not_lt.mpr nonneg)
    | true => simp [isNegative, toRat, power, Nat.pos_iff_ne_zero]

/-- On the extended line, above zero is what is neither below nor at zero, unless it is undefined. -/
theorem extended?_pos_iff {x : Binary64} (low : x.isNegative = false) (apart : x.isZero = false) :
    (∃ r, x.extended? = some r ∧ 0 < r) ↔ x ≠ undefined := by
  cases x with
  | finite negative m e canonical =>
    have above := (isNegative_iff rfl).not.mp (Bool.eq_false_iff.mp low)
    have nonzero := (isZero_iff rfl).not.mp (Bool.eq_false_iff.mp apart)
    have positive := lt_of_le_of_ne (not_lt.mp above) (Ne.symm nonzero)
    exact iff_of_true ⟨_, rfl, EReal.coe_pos.mpr (Rat.cast_pos.mpr positive)⟩ Binary64.noConfusion
  | infinite negative =>
    cases negative with
    | false => exact iff_of_true ⟨_, rfl, EReal.zero_lt_top⟩ Binary64.noConfusion
    | true => cases low
  | undefined => simp [extended?]

theorem extended?_nonneg_iff {x : Binary64} (low : x.isNegative = false) :
    (∃ r, x.extended? = some r ∧ 0 ≤ r) ↔ x ≠ undefined := by
  cases x with
  | finite negative m e canonical =>
    have above := (isNegative_iff rfl).not.mp (Bool.eq_false_iff.mp low)
    exact iff_of_true ⟨_, rfl, EReal.coe_nonneg.mpr (Rat.cast_nonneg.mpr (not_lt.mp above))⟩
      Binary64.noConfusion
  | infinite negative =>
    cases negative with
    | false => exact iff_of_true ⟨_, rfl, le_top⟩ Binary64.noConfusion
    | true => cases low
  | undefined => simp [extended?]

theorem ofRatio_ne_undefined (negative : Bool) (num den : Nat) :
    ofRatio negative num den ≠ undefined := by
  have pack (m : Nat) (e : Int) : pack negative m e ≠ undefined := by
    unfold pack
    split
    next => exact Binary64.noConfusion
    next => exact Binary64.noConfusion
  unfold ofRatio
  split
  next => exact Binary64.noConfusion
  next =>
    dsimp only
    split
    next => exact pack _ _
    next => exact pack _ _

theorem ofDecimal_ne_undefined (negative : Bool) (digits : Nat) (exponent : Int) :
    ofDecimal negative digits exponent ≠ undefined := by
  unfold ofDecimal
  dsimp only
  split
  next => exact Binary64.noConfusion
  next =>
    split
    next => exact Binary64.noConfusion
    next =>
      split
      next => exact Binary64.noConfusion
      next =>
        split
        next => exact ofRatio_ne_undefined _ _ _
        next => exact ofRatio_ne_undefined _ _ _

/-- A finite number divided by one that is not zero is undefined only if the divisor is. -/
theorem div_eq_undefined_iff {x y : Binary64} (hf : x.isFinite = true) (apart : y.isZero = false) :
    x.div y = undefined ↔ y = undefined := by
  cases x with
  | infinite => cases hf
  | undefined => cases hf
  | finite negative m e canonical =>
    cases y with
    | undefined => exact iff_of_true rfl rfl
    | infinite => exact iff_of_false Binary64.noConfusion Binary64.noConfusion
    | finite negative' m' e' canonical' =>
      have nonzero : m' ≠ 0 := by simpa [isZero] using apart
      rw [div, if_neg nonzero]
      exact iff_of_false (ofRatio_ne_undefined _ _ _) Binary64.noConfusion

end Binary64

namespace Numeral

/-- A name of the undefined number, in any case, with a sign or without, and with spaces around it. -/
def IsUndefinedName (text : String) : Prop :=
  ∃ sign ∈ [[], ['+'], ['-']], ∃ name : List Char, name.map Char.toLower = ['n', 'a', 'n'] ∧
    Text.trimList Text.isSpace text.toList = sign ++ name

theorem spanSign_eq_iff {cs body : List Char} (plain : body.head? ≠ some '+' ∧ body.head? ≠ some '-') :
    (spanSign cs).2 = body ↔ ∃ sign ∈ [[], ['+'], ['-']], cs = sign ++ body := by
  have own : spanSign body = (false, body) := by
    unfold spanSign
    split
    next => exact absurd rfl plain.2
    next => exact absurd rfl plain.1
    next => rfl
  constructor
  · intro h
    unfold spanSign at h
    split at h
    next rest => exact ⟨['-'], by simp, by rw [← h]; rfl⟩
    next rest => exact ⟨['+'], by simp, by rw [← h]; rfl⟩
    next => exact ⟨[], by simp, h⟩
  · rintro ⟨sign, hs, rfl⟩
    simp only [List.mem_cons, List.not_mem_nil, or_false] at hs
    rcases hs with rfl | rfl | rfl
    · rw [List.nil_append, own]
    · rfl
    · rfl

theorem special?_eq_undefined_iff {cs : List Char} :
    special? cs = some .undefined ↔ (spanSign cs).2.map Char.toLower = ['n', 'a', 'n'] := by
  have name : String.ofList ((spanSign cs).2.map Char.toLower) = "nan" ↔
      (spanSign cs).2.map Char.toLower = ['n', 'a', 'n'] := by
    have word : "nan" = String.ofList ['n', 'a', 'n'] := rfl
    rw [word, String.ofList_inj]
  unfold special?
  dsimp only
  split
  next infinite =>
    refine iff_of_false (fun h => by cases h) fun same => ?_
    rw [name.mpr same] at infinite
    revert infinite
    decide
  next =>
    split
    next same => exact iff_of_true rfl (name.mp same)
    next other => exact iff_of_false (fun h => by cases h) (fun same => other (name.mpr same))

theorem setting?_eq_undefined_iff {text : String} :
    setting? text = some .undefined ↔ IsUndefinedName text := by
  have special : setting? text = some .undefined ↔
      special? (Text.trimList Text.isSpace text.toList) = some .undefined := by
    unfold setting?
    dsimp only
    split
    next x found => rw [found]
    next none =>
      rw [none]
      refine iff_of_false (fun h => ?_) (fun h => by cases h)
      obtain ⟨cs, -, h⟩ := Option.bind_eq_some_iff.mp h
      obtain ⟨n, -, h⟩ := Option.bind_eq_some_iff.mp h
      exact Binary64.ofDecimal_ne_undefined _ _ _ (Option.some.inj h)
  have plain {name : List Char} (lower : name.map Char.toLower = ['n', 'a', 'n']) :
      name.head? ≠ some '+' ∧ name.head? ≠ some '-' := by
    cases name with
    | nil => cases lower
    | cons c rest =>
      have first : c.toLower = 'n' := (List.cons.inj lower).1
      constructor
      all_goals
        rintro same
        cases same
        revert first
        decide
  rw [special, special?_eq_undefined_iff]
  constructor
  · intro lower
    obtain ⟨sign, hs, split⟩ := (spanSign_eq_iff (plain lower)).mp rfl
    exact ⟨sign, hs, _, lower, split⟩
  · rintro ⟨sign, hs, name, lower, split⟩
    rw [(spanSign_eq_iff (plain lower)).mpr ⟨sign, hs, split⟩]
    exact lower

end Numeral

namespace Config

/-- Values that are read as the undefined number. -/
inductive IsUndefined : Value → Prop
  | float : IsUndefined (.float .undefined)
  | text {s : String} : Numeral.IsUndefinedName s → IsUndefined (.text s)

theorem numberSetting?_undefined_iff (value : Value) :
    numberSetting? value = .ok (some .undefined) ↔ IsUndefined value := by
  cases value with
  | int n =>
    refine iff_of_false (fun same => ?_) fun h => by cases h
    rw [numberSetting?] at same
    split at same
    next x found =>
      have rounded : Binary64.ofRatio (n < 0) n.natAbs 1 = x := by
        unfold Binary64.ofInt? at found
        dsimp only at found
        split at found
        next => exact Option.some.inj found
        next => cases found
      cases same
      exact Binary64.ofRatio_ne_undefined _ _ _ rounded
    next => cases same
  | float x =>
    constructor
    · intro same
      cases same
      exact .float
    · rintro ⟨⟩
      rfl
  | text s =>
    rw [numberSetting?, Except.ok.injEq, Numeral.setting?_eq_undefined_iff]
    exact ⟨.text, fun h => by cases h; assumption⟩
  | _ => exact iff_of_false (fun h => by cases h) (fun h => by cases h)

/-- A number among the settings is undefined exactly if it was given so. -/
theorem settled_undefined_iff {name : String} {x y : Binary64} {given : Option Value}
    (own : standard name = .float y) (defined : y ≠ .undefined)
    (taken : ∀ value, given = some value → Takes name value)
    (same : Value.float x = (given.map (settled name)).getD (.float y)) :
    x = .undefined ↔ ∃ value, given = some value ∧ IsUndefined value := by
  cases given with
  | none =>
    cases same
    exact iff_of_false defined nofun
  | some value =>
    obtain ⟨w, converts⟩ := taken value rfl
    have read : settled name value = w := by rw [settled, converts]
    rw [own, converted] at converts
    rw [Option.map_some, Option.getD_some, read] at same
    subst same
    cases number : numberSetting? value with
    | error f =>
      rw [number] at converts
      cases converts
    | ok found =>
      rw [number] at converts
      cases found with
      | none => cases converts
      | some z =>
        cases converts
        have undefined := numberSetting?_undefined_iff value
        rw [number] at undefined
        simpa using undefined

theorem Draft.default_defined :
    Draft.default.pixelsPerUnit ≠ .undefined ∧ Draft.default.arriveEpsilon ≠ .undefined := by
  decide +kernel

/-- Settings that are accepted have integers of at least one. The pixels of a unit are above zero, and
the distance of arrival is not below it, exactly if they were not given as the undefined number; lengths
of the world are undefined exactly if the pixels of a unit were. -/
theorem ofEntries_in_range_iff {entries : List (Value × Value)} {config : Config}
    (accepted : ofEntries entries = .ok config) :
    ((∃ r, config.pixelsPerUnit.extended? = some r ∧ 0 < r) ↔
      ¬∃ value, lastUnder? "pixels_per_unit" entries = some value ∧ IsUndefined value) ∧
    ((∃ r, config.arriveEpsilon.extended? = some r ∧ 0 ≤ r) ↔
      ¬∃ value, lastUnder? "arrive_epsilon" entries = some value ∧ IsUndefined value) ∧
    1 ≤ config.maxTraversalDepth ∧ 1 ≤ config.maxEmittedNodes ∧
    ∀ (entity : Entity) (pixels : Binary64), pixels.isFinite = true →
      ((Context.of entity config).world pixels = .undefined ↔
        ∃ value, lastUnder? "pixels_per_unit" entries = some value ∧ IsUndefined value) := by
  obtain ⟨all, d, view, checked⟩ := ofEntries_eq_ok_iff.mp accepted
  have taken (name : String) (value : Value) (last : lastUnder? name entries = some value) :
      Takes name value := by
    obtain ⟨s, known, takes⟩ := all _ (List.mem_reverse.mp (Value.entry_mem_of_find? last))
    cases (setting?_eq_some known).2
    exact takes
  obtain ⟨low, apart, low', depth, nodes, same⟩ := Draft.check_eq_ok checked
  have whole : config.view = settledView entries := same.trans view
  have pixels := settled_undefined_iff rfl Draft.default_defined.1 (taken "pixels_per_unit")
    (Option.some.inj (congrArg (List.lookup "pixels_per_unit") whole))
  have arrive := settled_undefined_iff rfl Draft.default_defined.2 (taken "arrive_epsilon")
    (Option.some.inj (congrArg (List.lookup "arrive_epsilon") whole))
  refine ⟨?_, ?_, depth, nodes, fun entity pixels' finite => ?_⟩
  · rw [Binary64.extended?_pos_iff low apart, ← pixels]
  · rw [Binary64.extended?_nonneg_iff low', ← arrive]
  · rw [Context.world, (Context.of_fields entity config).2, Binary64.div_eq_undefined_iff finite apart,
      pixels]

/-- A unit of thirty-two pixels, given as a text with spaces and an underscore. -/
theorem ofEntries_in_range_iff_grouped :
    ∃ config, ofEntries [(.text "pixels_per_unit", .text " 3_2 ")] = .ok config ∧
      (∃ r, config.pixelsPerUnit.extended? = some r ∧ 0 < r) ∧
      ∀ entity : Entity, (Context.of entity config).world (.ofNat 64) ≠ .undefined := by
  obtain ⟨config, accepted⟩ :
      ∃ config, ofEntries [(.text "pixels_per_unit", .text " 3_2 ")] = .ok config := ⟨_, rfl⟩
  have defined : ¬∃ value, lastUnder? "pixels_per_unit" [(.text "pixels_per_unit", .text " 3_2 ")] =
      some value ∧ IsUndefined value := by
    rintro ⟨value, last, undefined⟩
    cases last
    have read := (numberSetting?_undefined_iff _).mpr undefined
    revert read
    decide +kernel
  obtain ⟨positive, -, -, -, world⟩ := ofEntries_in_range_iff accepted
  exact ⟨config, accepted, positive.mpr defined, fun entity undefined =>
    defined ((world entity _ rfl).mp undefined)⟩

/-- The undefined number is accepted for the pixels of a unit, and every length is written as zero. -/
theorem ofEntries_accepts_undefined :
    ∃ config, ofEntries [(.text "pixels_per_unit", .text "nan")] = .ok config ∧
      config.pixelsPerUnit.extended? = none ∧
      ∀ (entity : Entity) (pixels : Binary64),
        (Context.of entity config).lengthLiteral pixels = "0f" := by
  obtain ⟨config, accepted, undefined⟩ : ∃ config,
      ofEntries [(.text "pixels_per_unit", .text "nan")] = .ok config ∧
        config.pixelsPerUnit = .undefined := ⟨_, rfl, rfl⟩
  refine ⟨config, accepted, by rw [undefined, Binary64.extended?], fun entity pixels => ?_⟩
  rw [Context.lengthLiteral, Context.world, (Context.of_fields entity config).2, undefined]
  cases pixels <;> rfl

end Config

end GraphScript
