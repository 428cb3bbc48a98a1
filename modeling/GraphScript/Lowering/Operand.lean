import GraphScript.Lowering.Context

namespace GraphScript

/-- The first of the keys whose value is given. -/
def firstGiven? (keys : List String) (entries : List (Value × Value)) : Option Value :=
  keys.findSome? fun key => (Value.find? key entries).filter Value.isGiven

/-- The keys that name a variable. -/
def referenceKeys : List String :=
  ["variable", "var", "name"]

/-- Whether a map says of itself that it is a reference. -/
def isReference (entries : List (Value × Value)) : Except Fault Bool :=
  match Value.find? "type" entries with
  | some v => do return Text.lower (← v.written) == "variable"
  | none => .ok false

/-- The name of the variable that a map refers to. -/
def reference? (entries : List (Value × Value)) : Except Fault (Option String) := do
  let keys := if ← isReference entries then referenceKeys ++ ["value", "id"] else referenceKeys
  match firstGiven? keys entries with
  | some name => return some (← name.written)
  | none => return none

namespace Context

/-- The expression of a text: a declared variable, or a literal in the type of the target. -/
def textOperand (ctx : Context) (type : Option FieldType) (text : String) : Except Fault String :=
  if ctx.isVariable text then .ok (ctx.identifier text)
  else CSharp.valueLiteral type (.text text)

/-- The expression of a number. -/
def numberOperand (type : Option FieldType) (value : Value) : Except Fault String :=
  match value with
  | .int n =>
    match Binary64.ofInt? n with
    | some x => .ok (CSharp.numberLiteral type x)
    | none => .error .integerTooLarge
  | .float x => .ok (CSharp.numberLiteral type x)
  | _ => .ok (FieldType.zero type)

mutual

/-- The expression of an operand for a target of the given type. -/
def operand (ctx : Context) (type : Option FieldType) (value : Value) : Lowered String :=
  match value with
  | .null => return FieldType.zero type
  | .map entries => do
    match ← Lowered.ofExcept (reference? entries) with
    | some name => return ctx.identifier name
    | none => ctx.wrappedOperand type (.map entries) entries
  | .bool b => return CSharp.boolLiteral b
  | .int n => .ofExcept (numberOperand type (.int n))
  | .float x => .ofExcept (numberOperand type (.float x))
  | .text s => .ofExcept (ctx.textOperand type s)
  | .list items => do
    Lowered.noteAbout (.list items) "actions" .debug
      ("SetVar operand " ++ (Value.list items).quoted ++ " is not usable, using default")
    return FieldType.zero type

/-- The expression of the operand that a map wraps as its value. -/
def wrappedOperand (ctx : Context) (type : Option FieldType) (whole : Value) :
    List (Value × Value) → Lowered String
  | [] => do
    Lowered.noteAbout whole "actions" .debug
      ("SetVar operand " ++ whole.quoted ++ " has no value, using default")
    return FieldType.zero type
  | (key, value) :: rest =>
    match key with
    | .text "value" => ctx.operand type value
    | _ => ctx.wrappedOperand type whole rest

end

end Context

end GraphScript
