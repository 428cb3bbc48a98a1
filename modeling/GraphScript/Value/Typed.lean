import GraphScript.Fault
import GraphScript.Number.Numeral
import GraphScript.Number.Shortest
import GraphScript.Text.Case
import GraphScript.Value.Basic

namespace GraphScript

/-- A pair of coordinates. -/
structure Vec2 where
  x : Binary64
  y : Binary64
deriving DecidableEq, Repr

namespace Value

/-- A text, or the text of a number. -/
def asText? : Value → Option String
  | text s => some s
  | int n => some (toString n)
  | float x => some x.text
  | _ => none

/-- A finite number, also given as a truth value or as a numeral. -/
def asNumber? : Value → Option Binary64
  | bool b => some (.ofNat (if b then 1 else 0))
  | int n => Binary64.ofInt? n
  | float x => if x.isFinite then some x else none
  | text s => Numeral.parameter? s
  | _ => none

/-- Words for the two truth values. -/
def trueWords : List String := ["1", "true", "t", "yes", "y", "on"]

@[inherit_doc trueWords]
def falseWords : List String := ["0", "false", "f", "no", "n", "off"]

/-- A truth value, also given as zero or one or as a word in any case. -/
def asFlag? : Value → Option Bool
  | text s =>
    let word := String.ofList (s.toList.map Char.toLower)
    if trueWords.contains word then some true
    else if falseWords.contains word then some false
    else none
  | value =>
    match value.integral? with
    | some 0 => some false
    | some 1 => some true
    | _ => none

/-- A coordinate of a map; a missing one is zero. -/
def coordinate? (key : String) (entries : List (Value × Value)) : Option Binary64 :=
  match find? key entries with
  | some v => v.asNumber?
  | none => some (.zero false)

/-- A pair of coordinates, given as a list of two or as a map. -/
def asVec2? : Value → Option Vec2
  | list [x, y] => do return ⟨← x.asNumber?, ← y.asNumber?⟩
  | map entries => do return ⟨← coordinate? "x" entries, ← coordinate? "y" entries⟩
  | _ => none

/-- Why a value is no integer. -/
inductive IntegerIssue where
  | kind
  | fraction
  | size
  | numeral
  | infinite
deriving DecidableEq, Repr

def IntegerIssue.message : IntegerIssue → String
  | kind => "Input should be a valid integer"
  | fraction => "Input should be a valid integer, got a number with a fractional part"
  | size => "Unable to parse input string as an integer, exceeded maximum size"
  | numeral => "Input should be a valid integer, unable to parse string as an integer"
  | infinite => "Input should be a finite number"

/-- An integer, also given as a truth value, as a number without a fraction, or as a numeral. -/
def asInteger : Value → Except IntegerIssue Int
  | bool b => .ok (if b then 1 else 0)
  | int n => .ok n
  | float x =>
    match x.truncate? with
    | none => .error .infinite
    | some n =>
      if !x.isInteger then .error .fraction
      else if n.natAbs < Nat.pow 2 63 then .ok n
      else .error .size
  | text s =>
    if Numeral.isOverlong s.toList then .error .size
    else match Numeral.parameterInt? s with
      | some n => .ok n
      | none => .error .numeral
  | _ => .error .kind

/-- The number of a finite number or of a numeral in a text; truth values are no numbers. -/
def number? : Value → Except Fault (Option Binary64)
  | int n =>
    match Binary64.ofInt? n with
    | some x => .ok (some x)
    | none => .error .integerTooLarge
  | float x => .ok (if x.isFinite then some x else none)
  | text s => .ok ((Numeral.ofText? s).map Numeral.toBinary64)
  | _ => .ok none

/-- The truth value, also written as a word in any case. -/
def flag? : Value → Option Bool
  | bool b => some b
  | text s =>
    let word := Text.lower (Text.trim s)
    if word = "true" then some true
    else if word = "false" then some false
    else none
  | _ => none

end Value

end GraphScript
