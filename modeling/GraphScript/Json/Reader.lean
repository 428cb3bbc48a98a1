import GraphScript.Fault
import GraphScript.Number.Numeral
import GraphScript.Value.Basic

namespace GraphScript.Json

/-- Why a text is no document. -/
inductive Cause where
  | value
  | name
  | colon
  | comma
  | unterminated
  | control
  | badEscape
  | badCodePoint
  | extra
  | byteOrderMark
  /-- A number that cannot be had. -/
  | fault (fault : Fault)
deriving DecidableEq, Repr

def Cause.message : Cause → String
  | value => "Expecting value"
  | name => "Expecting property name enclosed in double quotes"
  | colon => "Expecting ':' delimiter"
  | comma => "Expecting ',' delimiter"
  | unterminated => "Unterminated string starting at"
  | control => "Invalid control character at"
  | badEscape => "Invalid \\escape"
  | badCodePoint => "Invalid \\uXXXX escape"
  | extra => "Extra data"
  | byteOrderMark => "Unexpected UTF-8 BOM (decode using utf-8-sig)"
  | fault f => f.message

/-- A cause and how many characters were left where it was seen. -/
structure Failure where
  cause : Cause
  left : Nat
deriving Repr

def fail {α : Type} (cause : Cause) (rest : List Char) : Except Failure α :=
  .error ⟨cause, rest.length⟩

def isGap (c : Char) : Bool :=
  c == ' ' || c == '\t' || c == '\n' || c == '\r'

def skipGaps (cs : List Char) : List Char :=
  cs.dropWhile isGap

def hexValue? (c : Char) : Option Nat :=
  if '0' ≤ c ∧ c ≤ '9' then some (c.toNat - 48)
  else if 'a' ≤ c ∧ c ≤ 'f' then some (c.toNat - 87)
  else if 'A' ≤ c ∧ c ≤ 'F' then some (c.toNat - 55)
  else none

/-- The number that the first four characters write in base sixteen. -/
def hexQuad? : List Char → Option Nat
  | a :: b :: c :: d :: _ => do
    let a ← hexValue? a
    let b ← hexValue? b
    let c ← hexValue? c
    let d ← hexValue? d
    return ((a * 16 + b) * 16 + c) * 16 + d
  | _ => none

def isHighSurrogate (n : Nat) : Bool :=
  0xd800 ≤ n && n < 0xdc00

def isLowSurrogate (n : Nat) : Bool :=
  0xdc00 ≤ n && n < 0xe000

/-- The character of a code point; a surrogate without its partner has none. -/
def charOf (n : Nat) : Char :=
  if 0xd800 ≤ n ∧ n < 0xe000 then Char.ofNat 0xfffd else Char.ofNat n

/-- The second half of a surrogate pair, if the text goes on with one and does not end there. -/
def lowHalf? (cs : List Char) : Except Failure (Option Nat) :=
  match cs with
  | '\\' :: 'u' :: rest =>
    if (rest.drop 4).isEmpty then .ok none
    else
      match hexQuad? rest with
      | some n => .ok (if isLowSurrogate n then some n else none)
      | none => fail .badCodePoint ('u' :: rest)
  | _ => .ok none

/-- The character after a backslash that stands for another one. -/
def escape? (c : Char) : Option Char :=
  match c with
  | '"' => some '"'
  | '\\' => some '\\'
  | '/' => some '/'
  | 'b' => some (Char.ofNat 8)
  | 'f' => some (Char.ofNat 12)
  | 'n' => some '\n'
  | 'r' => some '\r'
  | 't' => some '\t'
  | _ => none

/-- The characters of a string up to its closing quote, and what follows. `opening` is what was
left at the opening quote; each step of `fuel` reads one character or escape. -/
def stringBody (opening : List Char) : Nat → List Char → Except Failure (List Char × List Char)
  | 0, _ => fail .unterminated opening
  | fuel + 1, cs =>
    match cs with
    | [] => fail .unterminated opening
    | '"' :: rest => .ok ([], rest)
    | '\\' :: 'u' :: rest =>
      if (rest.drop 4).isEmpty then fail .badCodePoint ('u' :: rest)
      else
        match hexQuad? rest with
        | none => fail .badCodePoint ('u' :: rest)
        | some high => do
          let rest := rest.drop 4
          let low ← if isHighSurrogate high then lowHalf? rest else .ok none
          match low with
          | some low =>
            let (tail, after) ← stringBody opening fuel (rest.drop 6)
            return (Char.ofNat (0x10000 + (high - 0xd800) * 0x400 + (low - 0xdc00)) :: tail, after)
          | none =>
            let (tail, after) ← stringBody opening fuel rest
            return (charOf high :: tail, after)
    | '\\' :: c :: rest =>
      match escape? c with
      | some e => do
        let (tail, after) ← stringBody opening fuel rest
        return (e :: tail, after)
      | none => fail .badEscape ('\\' :: c :: rest)
    | ['\\'] => fail .unterminated opening
    | c :: rest =>
      if c.toNat < 0x20 then fail .control (c :: rest)
      else do
        let (tail, after) ← stringBody opening fuel rest
        return (c :: tail, after)

/-- A string whose opening quote was just read, in a document of at most `size` characters. -/
def readString (size : Nat) (cs : List Char) : Except Failure (String × List Char) := do
  let (body, rest) ← stringBody ('"' :: cs) (size + 1) cs
  return (String.ofList body, rest)

/-- The digits after a point; a point without a digit after it does not belong to the number. -/
def fraction : List Char → List Nat × List Char
  | '.' :: rest =>
    match Numeral.spanDigits Numeral.asciiDigit? rest with
    | ([], _) => ([], '.' :: rest)
    | found => found
  | cs => ([], cs)

/-- An exponent; a mark without digits after it does not belong to the number. -/
def exponent (cs : List Char) : Option Int × List Char :=
  match cs with
  | c :: rest =>
    if c = 'e' ∨ c = 'E' then
      let (negative, body) := Numeral.spanSign rest
      match Numeral.spanDigits Numeral.asciiDigit? body with
      | ([], _) => (none, cs)
      | (ds, after) => (some (Binary64.withSign negative (Numeral.ofDigits ds)), after)
    else (none, cs)
  | [] => (none, [])

/-- The whole part of a number: a single zero, or digits that do not start with one. -/
def wholePart (cs : List Char) : Option (List Nat × List Char) :=
  match cs with
  | '0' :: rest => some ([0], rest)
  | _ =>
    match Numeral.spanDigits Numeral.asciiDigit? cs with
    | ([], _) => none
    | found => some found

/-- A number; it is an integer unless it has a fraction or an exponent. -/
def readNumber (cs : List Char) : Except Failure (Value × List Char) :=
  let (negative, body) :=
    match cs with
    | '-' :: rest => (true, rest)
    | _ => (false, cs)
  match wholePart body with
  | none => fail .value cs
  | some (whole, rest) =>
    let (places, afterPlaces) := fraction rest
    let (power, after) := exponent afterPlaces
    if places.isEmpty && power.isNone then
      if Numeral.digitLimit < whole.length then fail (.fault (.numeralTooLong whole.length)) cs
      else .ok (.int (Binary64.withSign negative (Numeral.ofDigits whole)), after)
    else
      let digits := Numeral.ofDigits (whole ++ places)
      .ok (.float (.ofDecimal negative digits (power.getD 0 - places.length)), after)

/-- What follows a word at the front of a text. -/
def after? : List Char → List Char → Option (List Char)
  | [], cs => some cs
  | _ :: _, [] => none
  | w :: word, c :: cs => if w = c then after? word cs else none

/-- The words that stand for a value. -/
def wordValues : List (String × Value) :=
  [("null", .null), ("true", .bool true), ("false", .bool false), ("NaN", .float .undefined),
   ("Infinity", .float (.infinite false)), ("-Infinity", .float (.infinite true))]

/-- A value that is no string, list or map. -/
def readWord (cs : List Char) : Except Failure (Value × List Char) :=
  let found := wordValues.findSome? fun entry =>
    (after? entry.1.toList cs).map fun rest => (entry.2, rest)
  match found with
  | some result => .ok result
  | none => readNumber cs

mutual

/-- One value and what follows it; each nested value or further item uses one unit of `fuel`. -/
def readValue (size : Nat) : Nat → List Char → Except Failure (Value × List Char)
  | 0, cs => fail .value cs
  | fuel + 1, cs =>
    match cs with
    | '"' :: rest => do
      let (s, rest) ← readString size rest
      return (.text s, rest)
    | '[' :: rest =>
      match skipGaps rest with
      | ']' :: rest => .ok (.list [], rest)
      | rest => do
        let (items, rest) ← readItems size fuel rest
        return (.list items, rest)
    | '\x7b' :: rest =>
      match skipGaps rest with
      | '\x7d' :: rest => .ok (.map [], rest)
      | rest => do
        let (entries, rest) ← readEntries size fuel rest
        return (.ofEntries entries, rest)
    | _ => readWord cs

/-- The items of a list up to its closing bracket. -/
def readItems (size : Nat) : Nat → List Char → Except Failure (List Value × List Char)
  | 0, cs => fail .value cs
  | fuel + 1, cs => do
    let (item, rest) ← readValue size fuel cs
    match skipGaps rest with
    | ']' :: rest => return ([item], rest)
    | ',' :: rest =>
      let (more, rest) ← readItems size fuel (skipGaps rest)
      return (item :: more, rest)
    | rest => fail .comma rest

/-- The entries of a map up to its closing brace. -/
def readEntries (size : Nat) : Nat → List Char → Except Failure (List (Value × Value) × List Char)
  | 0, cs => fail .value cs
  | fuel + 1, cs =>
    match cs with
    | '"' :: rest => do
      let (key, rest) ← readString size rest
      match skipGaps rest with
      | ':' :: rest =>
        let (item, rest) ← readValue size fuel (skipGaps rest)
        match skipGaps rest with
        | '\x7d' :: rest => return ([(.text key, item)], rest)
        | ',' :: rest =>
          let (more, rest) ← readEntries size fuel (skipGaps rest)
          return ((.text key, item) :: more, rest)
        | rest => fail .comma rest
      | rest => fail .colon rest
    | _ => fail .name cs

end

/-- Reads a whole text as one value. -/
def readChars (cs : List Char) : Except Failure Value :=
  match cs with
  | '﻿' :: _ => fail .byteOrderMark cs
  | _ => do
    let (v, rest) ← readValue cs.length (2 * cs.length + 2) (skipGaps cs)
    match skipGaps rest with
    | [] => return v
    | rest => fail .extra rest

/-- The line and the column of a position, both counted from one. -/
def place (cs : List Char) (position : Nat) : Nat × Nat :=
  (cs.take position).foldl
    (fun (line, column) c => if c = '\n' then (line + 1, 1) else (line, column + 1)) (1, 1)

/-- Why and where a text is no document. -/
structure Error where
  cause : Cause
  line : Nat
  column : Nat
deriving Repr

/-- Reads a document. -/
def read (text : String) : Except Error Value :=
  let cs := text.toList
  match readChars cs with
  | .ok v => .ok v
  | .error e =>
    let (line, column) := place cs (cs.length - e.left)
    .error ⟨e.cause, line, column⟩

end GraphScript.Json
