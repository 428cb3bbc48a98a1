import GraphScript.Number.Binary64

namespace GraphScript

/-- A value of a document. -/
inductive Value where
  | null
  | bool (b : Bool)
  | int (n : Int)
  | float (x : Binary64)
  | text (s : String)
  | list (items : List Value)
  | map (entries : List (Value × Value))
deriving Inhabited

/-- Named parameters in the order they were given. -/
abbrev Params := List (String × Value)

namespace Value

/-- The short name of a value's kind. -/
def kind : Value → String
  | null => "NoneType"
  | bool _ => "bool"
  | int _ => "int"
  | float _ => "float"
  | text _ => "str"
  | list _ => "list"
  | map _ => "dict"

def isNull : Value → Bool
  | null => true
  | _ => false

/-- Whether a value counts as given: null, false, zero and whatever is empty do not. -/
def isGiven : Value → Bool
  | null => false
  | bool b => b
  | int n => n != 0
  | float x => !x.isZero
  | text s => s != ""
  | list items => !items.isEmpty
  | map entries => !entries.isEmpty

/-- The value of the first entry under a text key. -/
def find? (key : String) : List (Value × Value) → Option Value
  | [] => none
  | (text k, v) :: rest => if k = key then some v else find? key rest
  | _ :: rest => find? key rest

/-- The integer that a truth value or an integral number stands for as a key. -/
def integral? : Value → Option Int
  | bool b => some (if b then 1 else 0)
  | int n => some n
  | float x => if x.isInteger then x.truncate? else none
  | _ => none

/-- Whether two values are the same key of a map. The undefined number is one key. -/
def sameKey : Value → Value → Bool
  | null, null => true
  | text a, text b => a == b
  | float x, float y => x.sameValue y || (x == .undefined && y == .undefined)
  | a, b =>
    match integral? a, integral? b with
    | some m, some n => m == n
    | _, _ => false

/-- Sets the entry of a key: an equal key keeps its place and takes the new value. -/
def put (key value : Value) : List (Value × Value) → List (Value × Value)
  | [] => [(key, value)]
  | (k, v) :: rest =>
    if sameKey k key then (k, value) :: rest else (k, v) :: put key value rest

/-- The map that a sequence of entries builds when they are set one after another. -/
def ofEntries (entries : List (Value × Value)) : Value :=
  map (entries.foldl (fun acc entry => put entry.1 entry.2 acc) [])

/-- A map with text keys. -/
def record (fields : List (String × Value)) : Value :=
  map (fields.map fun field => (text field.1, field.2))

end Value

end GraphScript
