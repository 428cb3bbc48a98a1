import GraphScript.Lowering.Operand
import GraphScript.Proofs.Word

namespace GraphScript

/-- A computation of several steps that has a result has one at each step. -/
theorem ok_of_bind {α β : Type} {x : Except Fault α} {f : α → Except Fault β} {b : β}
    (h : x >>= f = .ok b) : ∃ a, x = .ok a ∧ f a = .ok b := by
  cases x with
  | ok a => exact ⟨a, rfl, h⟩
  | error fault => cases h

theorem mem_of_mem_trimList {drop : Char → Bool} {cs : List Char} {c : Char}
    (h : c ∈ Text.trimList drop cs) : c ∈ cs := by
  unfold Text.trimList at h
  have inner := (List.dropWhile_sublist _).subset (List.mem_reverse.mp h)
  exact (List.dropWhile_sublist _).subset (List.mem_reverse.mp inner)

/-- A first character that is kept stays the first. -/
theorem head?_trimList {drop : Char → Bool} {c : Char} {cs : List Char} (h : drop c = false) :
    (Text.trimList drop (c :: cs)).head? = some c := by
  unfold Text.trimList
  rw [List.dropWhile_cons_of_neg (by simp [h]), List.reverse_cons, List.dropWhile_append]
  split
  next => simp [h]
  next => simp

namespace CSharp

/-- What does not start with a parenthesis is no cast and has a value or none. -/
theorem constantValue_of_head {operand : String}
    (h : (Text.trimList Text.isBlank operand.toList).head? ≠ some '(') :
    ∃ r, constantValue operand = .ok r := by
  unfold constantValue
  dsimp only
  rw [dropStart?_intCast h]
  exact ⟨_, rfl⟩

/-- The value of an expression can be asked for. -/
def HasConstant (operand : String) : Prop :=
  ∃ r, constantValue operand = .ok r

theorem Unmarked.hasConstant {operand : String} (h : Unmarked operand) : HasConstant operand :=
  constantValue_of_head fun hc =>
    unmarked_iff.mp h '(' (mem_of_mem_trimList (List.mem_of_mem_head? hc)) (by decide)

theorem hasConstant_numberLiteral (type : Option FieldType) (x : Binary64) :
    HasConstant (numberLiteral type x) := by
  unfold numberLiteral
  split
  next =>
    split
    next => exact (unmarked_int _).hasConstant
    next => exact constantValue_cast x
  next => exact (unmarked_floatLiteral x).hasConstant
  next =>
    split
    next => exact (unmarked_int _).hasConstant
    next => exact (unmarked_floatLiteral x).hasConstant

theorem hasConstant_quote (text : String) : HasConstant (quote text) := by
  apply constantValue_of_head
  have chars : (quote text).toList =
      '"' :: ((String.join (text.toList.map quotedChar)).toList ++ ['"']) := by
    simp [quote]
  rw [chars, head?_trimList (by decide)]
  decide

theorem hasConstant_boolLiteral (b : Bool) : HasConstant (boolLiteral b) :=
  (unmarked_boolLiteral b).hasConstant

theorem hasConstant_zero (type : Option FieldType) : HasConstant (FieldType.zero type) := by
  unfold FieldType.zero
  split
  next => exact Unmarked.hasConstant (by decide)
  next => exact Unmarked.hasConstant (by decide)
  next => exact hasConstant_quote ""
  next => exact Unmarked.hasConstant (by decide)
  next => exact Unmarked.hasConstant (by decide)

/-- The forms of a literal. -/
inductive Literal : String → Prop
  | quote (text : String) : Literal (quote text)
  | bool (b : Bool) : Literal (boolLiteral b)
  | number (type : Option FieldType) (x : Binary64) : Literal (numberLiteral type x)
  | zero (type : Option FieldType) : Literal (FieldType.zero type)

theorem Literal.hasConstant {text : String} (h : Literal text) : HasConstant text := by
  cases h with
  | quote text => exact hasConstant_quote text
  | bool b => exact hasConstant_boolLiteral b
  | number type x => exact hasConstant_numberLiteral type x
  | zero type => exact hasConstant_zero type

theorem literal_written {value : Value} {text : String}
    (h : (do return quote (← value.written) : Except Fault String) = .ok text) : Literal text := by
  obtain ⟨s, -, h⟩ := ok_of_bind h
  cases h
  exact .quote s

theorem literal_valueLiteral {type : Option FieldType} {value : Value} {text : String}
    (h : valueLiteral type value = .ok text) : Literal text := by
  unfold valueLiteral at h
  split at h
  next =>
    cases h
    exact .zero (some .string)
  next =>
    cases h
    exact .zero (some .bool)
  next =>
    cases h
    exact .number _ _
  next => exact literal_written h
  next =>
    split at h
    next b _ =>
      cases h
      exact .bool b
    next =>
      obtain ⟨number, -, h⟩ := ok_of_bind h
      cases number with
      | some x =>
        cases h
        exact .number _ _
      | none => exact literal_written h

end CSharp

end GraphScript
