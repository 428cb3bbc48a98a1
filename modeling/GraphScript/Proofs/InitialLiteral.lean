import GraphScript.Proofs.NumberLiteral
import GraphScript.Proofs.StringLiteral
import GraphScript.Proofs.Total

namespace GraphScript

open Lowered

namespace CSharp

/-- The literals of a type. -/
inductive TypedLiteral : FieldType → String → Prop
  | int {text : String} {k : Int} : IntText text k → TypedLiteral .int text
  | cast {text : String} {y : Binary64} : FloatText text y → TypedLiteral .int ("(int)" ++ text)
  | float {text : String} {y : Binary64} : FloatText text y → TypedLiteral .float text
  | yes : TypedLiteral .bool "true"
  | no : TypedLiteral .bool "false"
  | string {text content : String} : readLiteral? text.toList = some (content, []) →
      TypedLiteral .string text
  | origin : TypedLiteral .vector2 "Vector2.zero"
  | vector {first second : String} {x y : Binary64} : FloatText first x → FloatText second y →
      TypedLiteral .vector2 ("new Vector2(" ++ first ++ ", " ++ second ++ ")")

/-- The literal stands for the value, if the value is one of the type. -/
def Represents : FieldType → Value → String → Prop
  | .int, value, text => ∀ x, value.number? = .ok (some x) → x.isFinite = true →
      NumberText x.toRat (some .int) text
  | .float, value, text => ∀ x, value.number? = .ok (some x) → x.isFinite = true →
      NumberText x.toRat (some .float) text
  | .bool, value, text => ∀ b, value.flag? = some b → text = if b then "true" else "false"
  | .string, value, text => ∀ content, value.isNull = false → value.written = .ok content →
      readLiteral? text.toList = some (content, [])
  | .vector2, value, text => ∀ v, value.asVec2? = some v → ∃ first second x y,
      text = "new Vector2(" ++ first ++ ", " ++ second ++ ")" ∧
        FloatText first x ∧ x.toRat = v.x.toRat ∧ FloatText second y ∧ y.toRat = v.y.toRat
  | .object, _, _ => True

theorem typedLiteral_bool (b : Bool) : TypedLiteral .bool (boolLiteral b) := by
  cases b with
  | true => exact .yes
  | false => exact .no

theorem typedLiteral_float (x : Binary64) : TypedLiteral .float (numberLiteral (some .float) x) := by
  obtain ⟨y, text, -⟩ := floatText_floatLiteral x
  exact .float text

theorem typedLiteral_int (x : Binary64) : TypedLiteral .int (numberLiteral (some .int) x) := by
  unfold numberLiteral
  dsimp only
  split
  next => exact .int (intText_toString _)
  next =>
    obtain ⟨y, text, -⟩ := floatText_floatLiteral x
    exact .cast text

/-- The literal of a text is read to its end. -/
theorem readLiteral?_quote_end (content : String) :
    readLiteral? (quote content).toList = some (content, []) := by
  have read := readLiteral?_quote content []
  rwa [List.append_nil] at read

theorem typedLiteral_zero {type : FieldType} (known : type ≠ .object) :
    TypedLiteral type (FieldType.zero (some type)) := by
  cases type with
  | int => exact .int (intText_toString 0)
  | float => exact typedLiteral_float (.zero false)
  | bool => exact .no
  | string => exact .string (readLiteral?_quote_end "")
  | vector2 => exact .origin
  | object => exact absurd rfl known

/-- A value that fits is given a literal of the type. -/
theorem typedLiteral_fitting? {type : FieldType} (known : type ≠ .object) {value : Value}
    {text : String} (h : fitting? type value = .ok (some text)) : TypedLiteral type text := by
  unfold fitting? at h
  split at h
  next =>
    cases h
    exact typedLiteral_zero known
  next =>
    cases type with
    | int =>
      obtain ⟨number, -, h⟩ := ok_of_bind h
      obtain ⟨x, -, rfl⟩ := Option.map_eq_some_iff.mp (Except.ok.inj h)
      exact typedLiteral_int x
    | float =>
      obtain ⟨number, -, h⟩ := ok_of_bind h
      obtain ⟨x, -, rfl⟩ := Option.map_eq_some_iff.mp (Except.ok.inj h)
      exact typedLiteral_float x
    | bool =>
      obtain ⟨truth, -, h⟩ := ok_of_bind h
      obtain ⟨b, -, rfl⟩ := Option.map_eq_some_iff.mp (Except.ok.inj h)
      exact typedLiteral_bool b
    | string =>
      obtain ⟨content, -, h⟩ := ok_of_bind h
      cases h
      exact .string (readLiteral?_quote_end content)
    | vector2 =>
      obtain ⟨v, -, rfl⟩ := Option.map_eq_some_iff.mp (Except.ok.inj h)
      obtain ⟨x, first, -⟩ := floatText_floatLiteral v.x
      obtain ⟨y, second, -⟩ := floatText_floatLiteral v.y
      exact .vector first second
    | object => exact absurd rfl known

/-- A value of the type fits, and its literal stands for it. -/
theorem represents_fitting? {type : FieldType} {value : Value} {found : Option String}
    (h : fitting? type value = .ok found) :
    Represents type value (found.getD (FieldType.zero (some type))) := by
  unfold fitting? at h
  split at h
  next null =>
    cases value with
    | null =>
      cases type with
      | int => exact fun _ hx => by cases hx
      | float => exact fun _ hx => by cases hx
      | bool => exact fun _ hb => by cases hb
      | string => exact fun _ given => by cases given
      | vector2 => exact fun _ hv => by cases hv
      | object => trivial
    | _ => cases null
  next =>
    cases type with
    | int =>
      intro x hx hf
      rw [hx] at h
      cases h
      exact numberText_numberLiteral _ hf
    | float =>
      intro x hx hf
      rw [hx] at h
      cases h
      exact numberText_numberLiteral _ hf
    | bool =>
      intro b hb
      simp only [truth?, hb] at h
      cases h
      rfl
    | string =>
      intro content _ hw
      rw [hw] at h
      cases h
      exact readLiteral?_quote_end content
    | vector2 =>
      intro v hv
      rw [hv] at h
      cases h
      obtain ⟨x, first, -, hx⟩ := floatText_floatLiteral v.x
      obtain ⟨y, second, -, hy⟩ := floatText_floatLiteral v.y
      exact ⟨_, _, x, y, rfl, first, hx, second, hy⟩
    | object => trivial

end CSharp

/-- The literal of a variable is that of its value, or else the zero of the type. -/
theorem fitting?_of_initialValue {declared : String} (known : FieldType.ofName declared ≠ .object)
    {ident : String} {value : Value} {text : String}
    (h : (initialValue declared ident value).result = .ok text) :
    ∃ found, CSharp.fitting? (FieldType.ofName declared) value = .ok found ∧
      text = found.getD (FieldType.zero (some (FieldType.ofName declared))) := by
  unfold initialValue at h
  dsimp only at h
  split at h
  next unknown => exact absurd unknown known
  next =>
    obtain ⟨_, -, h⟩ := bind_result_ok h
    have literal : CSharp.initialLiteral (FieldType.ofName declared) value = .ok text := by
      split at h
      next =>
        obtain ⟨_, -, h⟩ := bind_result_ok h
        exact h
      next => exact h
    obtain ⟨found, hf, h⟩ := ok_of_bind literal
    cases h
    exact ⟨found, hf, rfl⟩

/-- For every value without too large integers, the field of a variable starts with a literal of the
declared type, which stands for the value if it is one of the type. -/
theorem initialValue_typedLiteral {declared : String} (known : FieldType.ofName declared ≠ .object)
    (ident : String) {value : Value} (h : value.Bounded) (settings : Log.Settings) :
    ∃ text, ((initialValue declared ident value).shown settings).result = .ok text ∧
      CSharp.TypedLiteral (FieldType.ofName declared) text ∧
      CSharp.Represents (FieldType.ofName declared) value text := by
  have succeeds := initialValue_succeeds known ident h
  obtain ⟨text, result⟩ := succeeds.ends
  obtain ⟨found, fits, rfl⟩ := fitting?_of_initialValue known result
  refine ⟨_, by rw [succeeds.shown_eq, result], ?_, CSharp.represents_fitting? fits⟩
  cases found with
  | none => exact CSharp.typedLiteral_zero known
  | some text => exact CSharp.typedLiteral_fitting? known fits

/-- A fraction in digits of another script is cast, and what is no number is replaced by zero. -/
theorem initialValue_typedLiteral_speed :
    (∃ text, ((initialValue "int" "speed" (.text " -٣.٥ ")).shown .silent).result = .ok text ∧
      CSharp.TypedLiteral .int text ∧ CSharp.NumberText (-7 / 2) (some .int) text) ∧
    ∃ text, ((initialValue "float" "speed" (.list [.int 1])).shown .silent).result = .ok text ∧
      CSharp.TypedLiteral .float text := by
  have int : FieldType.ofName "int" ≠ .object := by decide
  have float : FieldType.ofName "float" ≠ .object := by decide
  have none : (Value.text " -٣.٥ ").Bounded := List.forall_mem_nil _
  have one : (Value.list [.int 1]).Bounded := Value.allBounded_of_small (by decide)
  have value : (Numeral.toBinary64 ⟨true, 35, -1⟩).toRat = -7 / 2 := by
    change -((7881299347898368 : Nat) * 2 ^ (-51 : Int) : ℚ) = -7 / 2
    norm_num
  constructor
  · obtain ⟨text, result, literal, same⟩ := initialValue_typedLiteral int "speed" none .silent
    exact ⟨text, result, literal, value ▸ same _ rfl rfl⟩
  · obtain ⟨text, result, literal, -⟩ := initialValue_typedLiteral float "speed" one .silent
    exact ⟨text, result, literal⟩

end GraphScript
