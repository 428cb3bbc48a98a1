import GraphScript.Fault
import GraphScript.Number.Shortest
import GraphScript.Value.Basic

namespace GraphScript

namespace Value

mutual

/-- The text of a value in which texts are quoted. -/
def quoted : Value → String
  | null => "None"
  | bool b => if b then "True" else "False"
  | int n => toString n
  | float x => x.text
  | text s => Text.quoted s
  | list items => "[" ++ ", ".intercalate (quotedItems items) ++ "]"
  | map entries => "\x7b" ++ ", ".intercalate (quotedEntries entries) ++ "\x7d"

def quotedItems : List Value → List String
  | [] => []
  | item :: rest => quoted item :: quotedItems rest

def quotedEntries : List (Value × Value) → List String
  | [] => []
  | (key, value) :: rest => (quoted key ++ ": " ++ quoted value) :: quotedEntries rest

end

/-- The text of a value; a text stands for itself. -/
def display : Value → String
  | text s => s
  | value => quoted value

/-- Integers from here on have too many digits to be written. -/
def writableBound : Nat := Nat.pow 10 Numeral.digitLimit

mutual

/-- Whether every integer in a value can be written. -/
def isWritable : Value → Bool
  | int n => n.natAbs < writableBound
  | list items => areWritable items
  | map entries => entriesWritable entries
  | _ => true

def areWritable : List Value → Bool
  | [] => true
  | item :: rest => isWritable item && areWritable rest

def entriesWritable : List (Value × Value) → Bool
  | [] => true
  | (key, value) :: rest => isWritable key && isWritable value && entriesWritable rest

end

/-- The text of a value, if it can be written. -/
def written (value : Value) : Except Fault String :=
  if value.isWritable then .ok value.display else .error .integerTooLong

/-- The texts of several values in parentheses; a single one keeps a comma. -/
def quotedTuple : List Value → String
  | [item] => "(" ++ quoted item ++ ",)"
  | items => "(" ++ ", ".intercalate (items.map quoted) ++ ")"

end Value

end GraphScript
