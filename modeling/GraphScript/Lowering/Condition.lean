import GraphScript.Lowering.Action
import GraphScript.Params.Condition

namespace GraphScript.Key

/-- Keys whose two names do not follow a common rule. -/
def special : List (String × String) :=
  [("ArrowUp", "UpArrow"), ("ArrowDown", "DownArrow"), ("ArrowLeft", "LeftArrow"),
   ("ArrowRight", "RightArrow"), ("Space", "Space"), ("Enter", "Return"), ("Escape", "Escape"),
   ("ShiftLeft", "LeftShift"), ("ShiftRight", "LeftShift"), ("ControlLeft", "LeftControl"),
   ("ControlRight", "LeftControl")]

/-- The member of the key list for a key code; letters and digits drop their mark, and what is not
known stays as it is. -/
def member (code : String) : String :=
  match code.toList with
  | [] => "None"
  | 'K' :: 'e' :: 'y' :: c :: rest => String.ofList (c :: rest)
  | cs =>
    match special.lookup code, cs with
    | some name, _ => name
    | none, 'D' :: 'i' :: 'g' :: 'i' :: 't' :: c :: rest => "Alpha" ++ String.ofList (c :: rest)
    | none, _ => code

end GraphScript.Key

namespace GraphScript

namespace KeyPhase

/-- The input query of a phase. -/
def method : KeyPhase → String
  | held => "GetKey"
  | released => "GetKeyUp"
  | pressed => "GetKeyDown"

end KeyPhase

namespace Context

/-- A comparison of a variable with a value. -/
def comparison (ctx : Context) (c : Comparison) (name : String) (value : Value) :
    Except Fault String := do
  let ident := ctx.identifier name
  return ident ++ " " ++ c.symbol ++ " " ++ (← CSharp.valueLiteral (ctx.typeOf ident) value)

def lowerComparison (ctx : Context) (c : Comparison) (params : Params) : Lowered String := do
  let p ← readParams VariableCompareParams.form params
  if p.name = "" then
    Lowered.note "conditions" .warning
      ("Variable condition without a variable on entity " ++ ctx.entity.id ++ ", treating as true")
    return "true"
  else Lowered.ofExcept (ctx.comparison c p.name p.value)

def lowerThreshold (ctx : Context) (symbol : String) (params : Params) : Lowered String := do
  let p ← readParams ThresholdParams.form params
  let health ← ctx.health
  return health ++ " " ++ symbol ++ " " ++ CSharp.numberLiteral (ctx.typeOf health) p.value

/-- A test of a key; a key beside the parameters comes before one among them. -/
def lowerInput (phase : KeyPhase) (params : Params) (key : Value) : Lowered String := do
  let code ←
    if key.isGiven then Lowered.ofExcept key.written
    else do
      let p ← readParams InputParams.form params
      pure p.key
  return "Input." ++ phase.method ++ "(KeyCode." ++ Key.member code ++ ")"

/-- The expression of a known condition. -/
def lowerConditionKind (ctx : Context) (params : Params) (key : Value) :
    ConditionKind → Lowered String
  | .compare c => ctx.lowerComparison c params
  | .isAlive => do return (← ctx.health) ++ " > 0"
  | .healthBelow => ctx.lowerThreshold "<" params
  | .healthAbove => ctx.lowerThreshold ">" params
  | .roleEquals => return "true /* RoleEquals: role is not tracked at runtime */"
  | .input phase => lowerInput phase params key

/-- The expression of a condition given by name. -/
def lowerNamedCondition (ctx : Context) (name : String) (params : Params) (key : Value) :
    Lowered String := do
  match ConditionKind.ofName? name with
  | none =>
    Lowered.fallback ctx.entity.id (.unknownCondition name)
    return "true"
  | some kind =>
    Lowered.perform (.note (.lowering "conditions" "condition" kind.name ""))
    ctx.lowerConditionKind params key kind

/-- The expression of a condition of an event. -/
def lowerCondition (ctx : Context) (c : Condition) : Lowered String :=
  ctx.lowerNamedCondition c.type c.params ((c.key.map Value.text).getD .null)

/-- The expressions joined by "and", or by "or"; without any the result is true. -/
def combine (useOr : Bool) (parts : List String) : String :=
  if parts.isEmpty then "true" else (if useOr then " || " else " && ").intercalate parts

/-- What a condition node gives as its kind. -/
def givenKinds (params : Params) : List Value :=
  ["condition", "type"].filterMap fun key => (params.lookup key).filter Value.isGiven

/-- The first of the names that is one of a kind. -/
def kindName? : List Value → Except Fault (Option String)
  | [] => .ok none
  | value :: rest => do
    let name ← value.written
    if (ConditionKind.ofName? name).isSome then return some name else kindName? rest

/-- The expression of a condition node: a named condition, or a comparison of its own. -/
def lowerConditionNode (ctx : Context) (node : Node) : Lowered String := do
  let given := givenKinds node.params
  match ← Lowered.ofExcept (kindName? given) with
  | some name => ctx.lowerNamedCondition name node.params ((node.params.lookup "key").getD .null)
  | none =>
    let p ← readParams ConditionNodeParams.form node.params
    if p.name = "" then
      Lowered.fallback ctx.entity.id <|
        match given with
        | value :: _ => .unknownNodeCondition value.display node.id
        | [] => .emptyCondition node.id
      return "true"
    else
      let operator := Text.trim p.operator
      match Comparison.ofSymbol? operator with
      | some c => Lowered.ofExcept (ctx.comparison c p.name p.value)
      | none =>
        Lowered.note "conditions" .debug
          ("Condition node " ++ node.id ++ ": operator " ++ Text.quoted operator ++ " replaced by ==")
        Lowered.ofExcept (ctx.comparison .equal p.name p.value)

end Context

end GraphScript
