import GraphScript.Number.Numeral
import GraphScript.Text.Case
import GraphScript.Value.Basic
import GraphScript.Yaml.Scalar

namespace GraphScript.Yaml

inductive Tag where
  | null
  | bool
  | int
  | float
  | text
  | merge
  | default
  | sequence
  | mapping
  | unknown
deriving DecidableEq, Repr

/-- The tag of a full name. -/
def Tag.ofName : String → Tag
  | "tag:yaml.org,2002:null" => null
  | "tag:yaml.org,2002:bool" => bool
  | "tag:yaml.org,2002:int" => int
  | "tag:yaml.org,2002:float" => float
  | "tag:yaml.org,2002:str" => text
  | "tag:yaml.org,2002:merge" => merge
  | "tag:yaml.org,2002:value" => default
  | "tag:yaml.org,2002:seq" => sequence
  | "tag:yaml.org,2002:map" => mapping
  | _ => unknown

def nullWords : List String := ["", "~", "null", "Null", "NULL"]

def trueWords : List String := ["yes", "Yes", "YES", "true", "True", "TRUE", "on", "On", "ON"]

def falseWords : List String := ["no", "No", "NO", "false", "False", "FALSE", "off", "Off", "OFF"]

def isDigit (c : Char) : Bool :=
  '0' ≤ c && c ≤ '9'

/-- Whether there is a character, and all are of a class or underscores. -/
def isRun (p : Char → Bool) (cs : List Char) : Bool :=
  !cs.isEmpty && cs.all fun c => p c || c == '_'

/-- A text cut at its colons. -/
def splitColons (word : List Char) : List Char → List (List Char)
  | [] => [word.reverse]
  | ':' :: rest => word.reverse :: splitColons [] rest
  | c :: rest => splitColons (c :: word) rest

/-- One or two digits below sixty. -/
def isSixtieth : List Char → Bool
  | [d] => isDigit d
  | [t, d] => '0' ≤ t && t ≤ '5' && isDigit d
  | _ => false

/-- A number that does not start with zero. -/
def isLeading (cs : List Char) : Bool :=
  match cs with
  | d :: rest => '1' ≤ d && d ≤ '9' && rest.all fun c => isDigit c || c == '_'
  | [] => false

/-- Whether a text is an integer without its sign: binary, octal after a zero, decimal, base
sixteen, or base sixty. -/
def isNatural (cs : List Char) : Bool :=
  match cs with
  | ['0'] => true
  | '0' :: 'b' :: rest => isRun (fun c => c == '0' || c == '1') rest
  | '0' :: 'x' :: rest => isRun (fun c => (Json.hexValue? c).isSome) rest
  | '0' :: rest => isRun (fun c => '0' ≤ c && c ≤ '7') rest
  | _ =>
    match splitColons [] cs with
    | first :: rest => isLeading first && rest.all isSixtieth
    | [] => false

def isInteger (word : String) : Bool :=
  isNatural (Numeral.spanSign word.toList).2

/-- Digits that may hold underscores but start with a digit. -/
def isWhole : List Char → Bool
  | d :: rest => isDigit d && rest.all fun c => isDigit c || c == '_'
  | [] => false

/-- Nothing, or an exponent with its sign. -/
def isExponent : List Char → Bool
  | [] => true
  | e :: s :: rest => (e == 'e' || e == 'E') && (s == '+' || s == '-') && !rest.isEmpty && rest.all isDigit
  | _ => false

/-- A decimal with a point; without digits before the point it has some after it and no sign. -/
def isDecimal (signed : Bool) (cs : List Char) : Bool :=
  let whole := cs.takeWhile (· != '.')
  match cs.dropWhile (· != '.') with
  | [] => false
  | _ :: rest =>
    let places := rest.takeWhile fun c => isDigit c || c == '_'
    let exponent := rest.drop places.length
    isExponent exponent &&
      (if whole.isEmpty then !signed && isWhole places else isWhole whole)

/-- Places in base sixty, the last with a point. -/
def isSexagesimal (cs : List Char) : Bool :=
  match (splitColons [] cs).reverse with
  | last :: middle :: more =>
    let places := (last.dropWhile (· != '.')).drop 1
    last.contains '.' && isSixtieth (last.takeWhile (· != '.')) &&
      places.all (fun c => isDigit c || c == '_') &&
      (match (middle :: more).reverse with
        | first :: rest => isWhole first && rest.all isSixtieth
        | [] => false)
  | _ => false

/-- Whether a text is a number with a point, an infinite one, or the one that is undefined. -/
def isNumber (word : String) : Bool :=
  let all := word.toList
  let cs := (Numeral.spanSign all).2
  let signed := cs.length != all.length
  let rest := String.ofList cs
  [".inf", ".Inf", ".INF"].contains rest || (!signed && [".nan", ".NaN", ".NAN"].contains rest) ||
    isDecimal signed cs || isSexagesimal cs

/-- The type of a plain text. -/
def Tag.ofPlain (word : String) : Tag :=
  if trueWords.contains word || falseWords.contains word then bool
  else if isNumber word then float
  else if isInteger word then int
  else if word = "<<" then merge
  else if nullWords.contains word then null
  else if word = "=" then default
  else text

/-- The value of a digit in a base. -/
def digit? (base : Nat) (c : Char) : Option Nat :=
  (Json.hexValue? c).filter (· < base)

/-- The number that digits write in a base; there has to be one. -/
def digitsIn (base : Nat) (cs : List Char) : Except Fault Nat :=
  let number := cs.foldl (fun n d => do return base * (← n) + (← digit? base d)) (some 0)
  match cs, number with
  | _ :: _, some n => .ok n
  | _, _ => .error (.noNumeral base (String.ofList cs))

/-- The number that decimal digits write; there may not be too many. -/
def decimal (cs : List Char) : Except Fault Nat :=
  if Numeral.digitLimit < cs.length then .error (.numeralTooLong cs.length) else digitsIn 10 cs

/-- The number of places in base sixty. -/
def sixtieths (n : Nat) : List (List Char) → Except Fault Nat
  | [] => .ok n
  | part :: rest => do sixtieths (60 * n + (← decimal part)) rest

/-- The integer that a text without sign and underscores denotes. -/
def natural (cs : List Char) : Except Fault Nat :=
  match cs with
  | ['0'] => .ok 0
  | '0' :: 'b' :: rest => digitsIn 2 rest
  | '0' :: 'x' :: rest => digitsIn 16 rest
  | '0' :: _ => digitsIn 8 cs
  | _ => sixtieths 0 (splitColons [] cs)

/-- A text without its underscores, cut into sign and rest. -/
def signedRest (word : String) : Bool × List Char :=
  Numeral.spanSign (word.toList.filter (· != '_'))

def integerOf (word : String) : Except Fault Int := do
  let (negative, cs) := signedRest word
  return Binary64.withSign negative (← natural cs)

/-- The number of a part of a text. -/
def number (cs : List Char) : Except Fault Binary64 :=
  match Numeral.setting? (String.ofList cs) with
  | some x => .ok x
  | none => .error (.noNumber (String.ofList cs))

/-- The sum of places in base sixty, from the last place on; the weight of a place has to be in
range. -/
def sexagesimalSum (weight : Nat) (sum : Binary64) : List (List Char) → Except Fault Binary64
  | [] => .ok sum
  | part :: rest => do
    let x ← number part
    match Binary64.ofInt? weight with
    | some w => sexagesimalSum (weight * 60) (sum.add (x.mul w)) rest
    | none => .error .integerTooLarge

def signedNumber (negative : Bool) (x : Binary64) : Binary64 :=
  if negative then x.neg else x

/-- The number that a text denotes. -/
def floatOf (word : String) : Except Fault Binary64 := do
  let (negative, cs) := signedRest word
  let lower := Text.lower (String.ofList cs)
  if lower = ".inf" then return .infinite negative
  else if lower = ".nan" then return .undefined
  else if cs.contains ':' then
    return signedNumber negative (← sexagesimalSum 1 (.zero false) (splitColons [] cs).reverse)
  else return signedNumber negative (← number cs)

/-- The truth value that a text denotes. -/
def truthOf (word : String) : Except Fault Bool :=
  let lower := Text.lower word
  if ["yes", "true", "on"].contains lower then .ok true
  else if ["no", "false", "off"].contains lower then .ok false
  else .error (.unknownName lower)

/-- The value of a scalar. -/
def Tag.scalarValue (tag : Tag) (word : String) : Except Issue Value :=
  match tag with
  | .null => .ok .null
  | .text => .ok (.text word)
  | .bool => ((truthOf word).map .bool).mapError .fault
  | .int => ((integerOf word).map .int).mapError .fault
  | .float => ((floatOf word).map .float).mapError .fault
  | .sequence => .error .wrongKind
  | .mapping => .error .wrongKind
  | _ => .error .unknownTag

end GraphScript.Yaml
