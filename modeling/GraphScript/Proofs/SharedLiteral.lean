import GraphScript.Proofs.Division

namespace GraphScript

/-- A map gives its value: it names no variable, and does not say that it is a reference. -/
structure Gives (entries : List (Value × Value)) (inner : Value) : Prop where
  value : Value.find? "value" entries = some inner
  unnamed : ∀ key ∈ referenceKeys, ∀ v, Value.find? key entries = some v → v.isGiven = false
  typed : ∀ v, Value.find? "type" entries = some v →
    ∃ text, v.written = .ok text ∧ Text.lower text ≠ "variable"

/-- A value, or a map that gives it, through any number of maps. -/
inductive Wrapped (core : Value) : Value → Prop
  | bare : Wrapped core core
  | inside {entries : List (Value × Value)} {inner : Value} :
      Gives entries inner → Wrapped core inner → Wrapped core (.map entries)

theorem Gives.isReference {entries : List (Value × Value)} {inner : Value} (h : Gives entries inner) :
    isReference entries = .ok false := by
  unfold GraphScript.isReference
  split
  next v found =>
    obtain ⟨text, written, other⟩ := h.typed v found
    rw [written]
    exact congrArg Except.ok (beq_false_of_ne other)
  next => rfl

theorem Gives.reference? {entries : List (Value × Value)} {inner : Value} (h : Gives entries inner) :
    reference? entries = .ok none := by
  have nothing : firstGiven? referenceKeys entries = none := by
    apply List.findSome?_eq_none_iff.mpr
    intro key hk
    apply Option.filter_eq_none_iff.mpr
    intro v found
    rw [h.unnamed key hk v found]
    decide
  unfold GraphScript.reference?
  rw [h.isReference]
  dsimp only [Bind.bind, Except.bind]
  rw [if_neg (by decide), nothing]
  rfl

theorem Value.number?_eq_some {value : Value} {x : Binary64} (h : value.number? = .ok (some x)) :
    value.isNull = false ∧ value.flag? = none := by
  cases value with
  | int n => exact ⟨rfl, rfl⟩
  | float y => exact ⟨rfl, rfl⟩
  | text s =>
    obtain ⟨n, numeral, -⟩ := Option.map_eq_some_iff.mp (Except.ok.inj h)
    exact ⟨rfl, flag?_of_numeral numeral⟩
  | _ => cases h

theorem CSharp.valueLiteral_of_number {value : Value} {x : Binary64}
    (h : value.number? = .ok (some x)) {type : Option FieldType} (ht : type ≠ some .string) :
    valueLiteral type value = .ok (numberLiteral type x) := by
  obtain ⟨given, noFlag⟩ := Value.number?_eq_some h
  unfold valueLiteral
  split
  next => cases given
  next => cases given
  next => cases given
  next => exact absurd rfl ht
  next =>
    rw [noFlag, h]
    rfl

theorem CSharp.fitting?_of_number {value : Value} {x : Binary64} (h : value.number? = .ok (some x))
    {type : FieldType} (ht : type = .int ∨ type = .float) :
    fitting? type value = .ok (some (numberLiteral (some type) x)) := by
  have given := (Value.number?_eq_some h).1
  unfold fitting?
  rw [given]
  rcases ht with rfl | rfl
  · rw [h]
    rfl
  · rw [h]
    rfl

theorem initialValue_of_number {value : Value} {x : Binary64} (h : value.number? = .ok (some x))
    {type : FieldType} (ht : type = .int ∨ type = .float) (ident : String) :
    initialValue type.name ident value = pure (CSharp.numberLiteral (some type) x) := by
  have fits := CSharp.fitting?_of_number h ht
  have written (unusable : Lowered Unit) : (do
      if (← Lowered.ofExcept (CSharp.fitting? type value)).isNone then unusable
      Lowered.ofExcept (CSharp.initialLiteral type value)) =
        pure (CSharp.numberLiteral (some type) x) := by
    rw [CSharp.initialLiteral, fits]
    rfl
  rcases ht with rfl | rfl
  · exact written _
  · exact written _

namespace Context

variable {ctx : Context}

theorem isNumber_of_number? {value : Value} {x : Binary64} (h : value.number? = .ok (some x))
    (free : ∀ s, value = .text s → ctx.isVariable s = false) : ctx.IsNumber value x := by
  cases value with
  | int n =>
    dsimp only [Value.number?] at h
    split at h
    next y fits =>
      cases h
      exact .int fits
    next => cases h
  | float y =>
    obtain ⟨-, same⟩ := Option.ite_none_right_eq_some.mp (Except.ok.inj h)
    cases same
    exact .float _
  | text s =>
    obtain ⟨n, numeral, rfl⟩ := Option.map_eq_some_iff.mp (Except.ok.inj h)
    exact .text (free s rfl) numeral
  | _ => cases h

/-- The expression of a map is that of the value which it gives. -/
theorem wrappedOperand_of_value (type : Option FieldType) (whole : Value)
    {entries : List (Value × Value)} {inner : Value} (h : Value.find? "value" entries = some inner) :
    ctx.wrappedOperand type whole entries = ctx.operand type inner := by
  induction entries with
  | nil => cases h
  | cons entry rest ih =>
    obtain ⟨key, value⟩ := entry
    unfold wrappedOperand
    split
    next =>
      cases h
      rfl
    next other =>
      apply ih
      cases key with
      | text k =>
        unfold Value.find? at h
        split at h
        next same => exact absurd (congrArg Value.text same) other
        next => exact h
      | _ => exact h

theorem operand_of_wrapped {value wrapped : Value} {x : Binary64} (h : Wrapped value wrapped)
    (number : ctx.IsNumber value x) {type : Option FieldType} (ht : type ≠ some .string) :
    ctx.operand type wrapped = pure (CSharp.numberLiteral type x) := by
  induction h with
  | bare => exact operand_of_isNumber number ht
  | inside gives _ ih =>
    rw [operand, gives.reference?]
    exact (wrappedOperand_of_value type _ gives.value).trans ih

/-- A number or a numeral that names no variable is the same literal as the first value of a field, in
a comparison with a field and as an operand for it, also as the value of maps. -/
theorem number_written_alike (ctx : Context) {type : FieldType} (ht : type = .int ∨ type = .float)
    {value : Value} {x : Binary64} (number : value.number? = .ok (some x))
    (free : ∀ s, value = .text s → ctx.isVariable s = false) :
    (∀ ident, initialValue type.name ident value = pure (CSharp.numberLiteral (some type) x)) ∧
      CSharp.valueLiteral (some type) value = .ok (CSharp.numberLiteral (some type) x) ∧
      ctx.operand (some type) value = pure (CSharp.numberLiteral (some type) x) ∧
      ∀ wrapped, Wrapped value wrapped →
        ctx.operand (some type) wrapped = pure (CSharp.numberLiteral (some type) x) := by
  have typed : some type ≠ some .string := by rcases ht with rfl | rfl <;> decide
  have operand := isNumber_of_number? number free
  exact ⟨initialValue_of_number number ht, CSharp.valueLiteral_of_number number typed,
    operand_of_wrapped .bare operand typed, fun _ h => operand_of_wrapped h operand typed⟩

/-- A fraction for an integer is cast everywhere, also inside a map that says it is a number. -/
theorem number_written_alike_score :
    ∃ config, Config.Draft.default.check = .ok config ∧
      (scoring config).isVariable "-3.50" = false ∧
      initialValue "int" "score" (.text "-3.50") = pure "(int)-3.5f" ∧
      CSharp.valueLiteral (some .int) (.text "-3.50") = .ok "(int)-3.5f" ∧
      (scoring config).operand (some .int) (.map [(.text "type", .text "number"),
        (.text "name", .text ""), (.text "value", .map [(.text "value", .text "-3.50")])]) =
          pure "(int)-3.5f" := by
  obtain ⟨config, valid⟩ : ∃ config, Config.Draft.default.check = .ok config := ⟨_, rfl⟩
  have literal : CSharp.numberLiteral (some .int) (Numeral.toBinary64 ⟨true, 350, -2⟩) =
      "(int)-3.5f" := by decide +kernel
  have inner : Gives [(.text "value", .text "-3.50")] (.text "-3.50") :=
    ⟨rfl, by simp [referenceKeys, Value.find?], by simp [Value.find?]⟩
  have outer : Gives [(.text "type", .text "number"), (.text "name", .text ""),
      (.text "value", .map [(.text "value", .text "-3.50")])]
      (.map [(.text "value", .text "-3.50")]) := by
    refine ⟨rfl, by simp [referenceKeys, Value.find?, Value.isGiven], fun v found => ?_⟩
    cases found
    exact ⟨"number", rfl, by decide +kernel⟩
  have int : FieldType.int = .int ∨ FieldType.int = .float := .inl rfl
  have number : (Value.text "-3.50").number? = .ok (some (Numeral.toBinary64 ⟨true, 350, -2⟩)) := rfl
  obtain ⟨first, compared, -, assigned⟩ := (scoring config).number_written_alike int number
    fun s hs => by
      cases hs
      rfl
  rw [literal] at first compared assigned
  exact ⟨config, valid, rfl, first "score", compared, assigned _ (.inside outer (.inside inner .bare))⟩

end Context

end GraphScript
