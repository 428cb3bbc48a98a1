import GraphScript.CSharp.Identifier
import GraphScript.Lowering.Effect
import GraphScript.Model.Entity
import GraphScript.Value.Typed

namespace GraphScript.CSharp

/-- Whether a value counts as true: a truth value, or a number that is not zero. -/
def truth? (value : Value) : Except Fault (Option Bool) := do
  match value.flag? with
  | some b => return some b
  | none => return (← value.number?).map fun x => !x.isZero

def vectorLiteral (v : Vec2) : String :=
  "new Vector2(" ++ floatLiteral v.x ++ ", " ++ floatLiteral v.y ++ ")"

/-- The literal of a value that fits the type; null stands for the zero of the type. -/
def fitting? (type : FieldType) (value : Value) : Except Fault (Option String) :=
  if value.isNull then .ok (some (FieldType.zero (some type)))
  else
    match type with
    | .int => do return (← value.number?).map (numberLiteral (some .int))
    | .float => do return (← value.number?).map (numberLiteral (some .float))
    | .bool => do return (← truth? value).map boolLiteral
    | .string => do return some (quote (← value.written))
    | .vector2 => .ok (value.asVec2?.map vectorLiteral)
    | .object => .ok none

/-- The literal that a field starts with: its value if that fits, or else the zero of the type. -/
def initialLiteral (type : FieldType) (value : Value) : Except Fault String := do
  return (← fitting? type value).getD (FieldType.zero (some type))

/-- The literal that a field of no particular type starts with. -/
def objectLiteral (value : Value) : Except Fault String :=
  match value with
  | .null => .ok "null"
  | .bool b => .ok (boolLiteral b)
  | .text s => .ok (quote s)
  | _ => do
    match ← value.number? with
    | some x => return numberLiteral none x
    | none => return "null"

end GraphScript.CSharp

namespace GraphScript

/-- The first literal of a variable; a value that does not fit is noted. `declared` is the name of
the type, and a name that is no type has no literal. -/
def initialValue (declared : String) (ident : String) (value : Value) : Lowered String :=
  let unusable : Lowered Unit :=
    .noteAbout value "variables" .debug
      ("Variable " ++ ident ++ ": value " ++ value.quoted ++ " is not a valid " ++ declared ++ ", using default")
  match FieldType.ofName declared with
  | .object => do
    if !value.isNull then unusable
    Lowered.ofExcept (.error (.unknownName declared))
  | type => do
    if (← Lowered.ofExcept (CSharp.fitting? type value)).isNone then unusable
    Lowered.ofExcept (CSharp.initialLiteral type value)

/-- The declaration of the field of a variable. -/
def declaration (v : Variable) (ident : String) : Lowered String := do
  match v.fieldType with
  | .object =>
    if v.declaredType ≠ "" then
      Lowered.note "variables" .debug
        ("Variable " ++ ident ++ " has unrecognized type " ++ Text.quoted v.type ++ ", declared as object")
    let literal ← Lowered.ofExcept (CSharp.objectLiteral v.value)
    return "public object " ++ ident ++ " = " ++ literal ++ ";"
  | type =>
    let literal ← initialValue v.declaredType ident v.value
    return "public " ++ type.keyword ++ " " ++ ident ++ " = " ++ literal ++ ";"

/-- One line for each variable: its declaration, or a comment when its identifier is in `taken`. -/
def declareFrom (entity : String) (taken : List String) : List Variable → Lowered Unit
  | [] => pure ()
  | v :: rest => do
    let ident := CSharp.sanitize v.name
    if taken.contains ident then
      Lowered.note "variables" .warning
        ("Entity " ++ entity ++ ": variable " ++ Text.quoted v.name ++ " collides with " ++ ident ++ ", skipped")
      Lowered.comment ("Skipped variable '" ++ v.name ++ "': " ++ ident ++ " is already declared")
      declareFrom entity taken rest
    else
      Lowered.line (← declaration v ident)
      declareFrom entity (ident :: taken) rest

/-- The declarations of an entity's variables. -/
def declareVariables (entity : Entity) : Lowered Unit :=
  declareFrom entity.id [] entity.vars

end GraphScript
