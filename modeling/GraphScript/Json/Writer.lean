import GraphScript.Value.Display

namespace GraphScript.Json

/-- A code unit of sixteen bits as an escape. -/
def unitEscape (n : Nat) : String :=
  "\\u" ++ Text.hex 4 n

/-- One character of a string. -/
def escaped (c : Char) : String :=
  if c = '"' then "\\\""
  else if c = '\\' then "\\\\"
  else if c = '\n' then "\\n"
  else if c = '\r' then "\\r"
  else if c = '\t' then "\\t"
  else if c.toNat = 8 then "\\b"
  else if c.toNat = 12 then "\\f"
  else if 0x20 ≤ c.toNat ∧ c.toNat ≤ 0x7e then c.toString
  else if c.toNat < 0x10000 then unitEscape c.toNat
  else
    let n := c.toNat - 0x10000
    unitEscape (0xd800 + n / 0x400) ++ unitEscape (0xdc00 + n % 0x400)

def string (text : String) : String :=
  "\"" ++ String.join (text.toList.map escaped) ++ "\""

def number : Binary64 → String
  | .undefined => "NaN"
  | .infinite negative => if negative then "-Infinity" else "Infinity"
  | x => x.text

/-- The text of a key: keys that are no texts are written as the text of their value. -/
def keyText : Value → String
  | .text s => s
  | .null => "null"
  | .bool b => if b then "true" else "false"
  | .int n => toString n
  | .float x => number x
  | v => v.quoted

mutual

/-- The value on one line. -/
def line : Value → String
  | .null => "null"
  | .bool b => if b then "true" else "false"
  | .int n => toString n
  | .float x => number x
  | .text s => string s
  | .list items => "[" ++ ", ".intercalate (lineItems items) ++ "]"
  | .map entries => "\x7b" ++ ", ".intercalate (lineEntries entries) ++ "\x7d"

def lineItems : List Value → List String
  | [] => []
  | item :: rest => line item :: lineItems rest

def lineEntries : List (Value × Value) → List String
  | [] => []
  | (key, item) :: rest => (string (keyText key) ++ ": " ++ line item) :: lineEntries rest

end

/-- Brackets around parts that each stand on a line of their own, two columns in. -/
def bracketed (depth : Nat) (opening closing : String) (parts : List String) : String :=
  let pad := String.ofList (List.replicate (2 * depth) ' ')
  if parts.isEmpty then opening ++ closing
  else opening ++ "\n" ++ ",\n".intercalate (parts.map (pad ++ "  " ++ ·)) ++ "\n" ++ pad ++ closing

mutual

/-- The value indented by two columns for each level, with the entries of maps sorted by key. -/
def pretty (depth : Nat) : Value → String
  | .list items => bracketed depth "[" "]" (prettyItems (depth + 1) items)
  | .map entries =>
    let parts := prettyEntries (depth + 1) entries
    let sorted := parts.mergeSort fun a b => decide (a.1 ≤ b.1)
    bracketed depth "\x7b" "\x7d" (sorted.map fun part => string part.1 ++ ": " ++ part.2)
  | v => line v

def prettyItems (depth : Nat) : List Value → List String
  | [] => []
  | item :: rest => pretty depth item :: prettyItems depth rest

def prettyEntries (depth : Nat) : List (Value × Value) → List (String × String)
  | [] => []
  | (key, item) :: rest => (keyText key, pretty depth item) :: prettyEntries depth rest

end

end GraphScript.Json
