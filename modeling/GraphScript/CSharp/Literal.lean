import GraphScript.Number.Shortest
import GraphScript.Value.Display
import GraphScript.Value.Typed

namespace GraphScript

/-- The type of a declared variable; what is not recognised is an object. -/
inductive FieldType where
  | int
  | float
  | bool
  | string
  | vector2
  | object
deriving DecidableEq, Repr

namespace FieldType

/-- The type that a declaration names. -/
def ofName : String → FieldType
  | "int" => int
  | "float" => float
  | "bool" => bool
  | "string" => string
  | "vector2" => vector2
  | _ => object

/-- The name under which declarations give the type. -/
def name : FieldType → String
  | int => "int"
  | float => "float"
  | bool => "bool"
  | string => "string"
  | vector2 => "vector2"
  | object => "object"

/-- The type in the generated code. -/
def keyword : FieldType → String
  | int => "int"
  | float => "float"
  | bool => "bool"
  | string => "string"
  | vector2 => "Vector2"
  | object => "object"

/-- The literal of a field without a usable value; without a type it is a plain zero. -/
def zero : Option FieldType → String
  | some float => "0f"
  | some bool => "false"
  | some string => "\"\""
  | some vector2 => "Vector2.zero"
  | _ => "0"

end FieldType

namespace CSharp

/-- One character inside a string literal: quotes, backslashes, control characters and line
separators are escaped. -/
def quotedChar (c : Char) : String :=
  if c = '\\' then "\\\\"
  else if c = '"' then "\\\""
  else if c = '\n' then "\\n"
  else if c = '\r' then "\\r"
  else if c = '\t' then "\\t"
  else if c.toNat = 0 then "\\0"
  else if c.toNat < 0x20 ∨ (0x7f ≤ c.toNat ∧ c.toNat < 0xa0) ∨ c.toNat = 0x2028 ∨ c.toNat = 0x2029 then
    "\\u" ++ Text.hex 4 c.toNat
  else c.toString

/-- The string literal of a text. -/
def quote (text : String) : String :=
  "\"" ++ String.join (text.toList.map quotedChar) ++ "\""

/-- Integers of a larger magnitude are written in full. -/
def plainLimit : Nat := Nat.pow 10 15

/-- Whether the number is an integer that is written without fraction and exponent. -/
def isPlain (x : Binary64) : Bool :=
  x.isInteger && x.magnitudeBelow plainLimit

/-- The integer part of a number, and zero when it has none. -/
def whole (x : Binary64) : Int :=
  x.truncate?.getD 0

/-- A float literal; what is not finite is zero. -/
def floatLiteral (x : Binary64) : String :=
  if !x.isFinite || x.isZero then "0f"
  else if isPlain x then toString (whole x) ++ "f"
  else x.text ++ "f"

/-- An integer literal: the nearest integer. -/
def intLiteral (x : Binary64) : String :=
  toString (x.round?.getD 0)

def boolLiteral (b : Bool) : String :=
  if b then "true" else "false"

/-- The cast in front of a fractional number where an integer is needed. -/
def intCast : String := "(int)"

/-- A numeric literal for a target of the given type. -/
def numberLiteral (type : Option FieldType) (x : Binary64) : String :=
  match type with
  | some .int => if x.isInteger then intLiteral x else intCast ++ floatLiteral x
  | some .float => floatLiteral x
  | _ => if isPlain x then toString (whole x) else floatLiteral x

/-- The literal of a comparison value: numbers and numerals are numeric, the words for truth values
are truth values, and all else is a string. A missing value is the zero of the type. -/
def valueLiteral (type : Option FieldType) (value : Value) : Except Fault String :=
  match value, type with
  | .null, some .string => .ok "\"\""
  | .null, some .bool => .ok "false"
  | .null, _ => .ok (numberLiteral type (.zero false))
  | _, some .string => do return quote (← value.written)
  | _, _ =>
    match value.flag? with
    | some b => .ok (boolLiteral b)
    | none => do
      match ← value.number? with
      | some x => return numberLiteral type x
      | none => return quote (← value.written)

/-- What follows `start` in a list that begins with it. -/
def dropStart? : List Char → List Char → Option (List Char)
  | [], cs => some cs
  | _ :: _, [] => none
  | s :: start, c :: cs => if s = c then dropStart? start cs else none

/-- The text without a final `f`. -/
def dropSuffix (cs : List Char) : List Char :=
  if cs.getLast? = some 'f' then cs.dropLast else cs

/-- The value of a rendered numeric literal; a cast to an integer cuts its fraction. -/
def constantValue (operand : String) : Except Fault (Option Binary64) :=
  let cs := Text.trimList Text.isBlank operand.toList
  let read (cs : List Char) := (Numeral.ofText? (String.ofList (dropSuffix cs))).map Numeral.toBinary64
  match dropStart? intCast.toList cs with
  | none => .ok (read cs)
  | some rest =>
    match read rest with
    | none => .ok none
    | some x =>
      match x.truncate? with
      | some n => .ok (some (.ofRatio (n < 0) n.natAbs 1))
      | none => .error .infiniteInteger

end CSharp

end GraphScript
