import GraphScript.Text.Letter

namespace GraphScript.Text.Utf8

/-- What is wrong with a byte. -/
inductive Flaw where
  /-- No character starts with the byte. -/
  | start
  /-- A character was begun, and the byte cannot go on with it. -/
  | continuation
  /-- A character was begun, and nothing follows. -/
  | truncated
deriving DecidableEq, Repr

def Flaw.reason : Flaw → String
  | start => "invalid start byte"
  | continuation => "invalid continuation byte"
  | truncated => "unexpected end of data"

/-- A run of bytes that is no character. -/
structure Issue where
  position : Nat
  /-- How many bytes the run has. -/
  count : Nat
  first : UInt8
  flaw : Flaw
deriving DecidableEq, Repr

def Issue.message (i : Issue) : String :=
  let place :=
    if i.count = 1 then
      "byte 0x" ++ hex 2 i.first.toNat ++ " in position " ++ toString i.position
    else "bytes in position " ++ toString i.position ++ "-" ++ toString (i.position + i.count - 1)
  "'utf-8' codec can't decode " ++ place ++ ": " ++ i.flaw.reason

/-- A character that was begun: where, with which byte, how many bytes were taken and are owed, the
range of the next one, and the bits so far. -/
structure Partial where
  position : Nat
  first : UInt8
  taken : Nat
  owed : Nat
  low : Nat
  high : Nat
  bits : Nat

/-- What the first byte of a character of several bytes begins. -/
def begin? (position : Nat) (b : UInt8) : Option Partial :=
  let n := b.toNat
  if 0xC2 ≤ n ∧ n ≤ 0xDF then some ⟨position, b, 1, 1, 0x80, 0xBF, n - 0xC0⟩
  else if n = 0xE0 then some ⟨position, b, 1, 2, 0xA0, 0xBF, 0⟩
  else if n = 0xED then some ⟨position, b, 1, 2, 0x80, 0x9F, 0xD⟩
  else if 0xE1 ≤ n ∧ n ≤ 0xEF then some ⟨position, b, 1, 2, 0x80, 0xBF, n - 0xE0⟩
  else if n = 0xF0 then some ⟨position, b, 1, 3, 0x90, 0xBF, 0⟩
  else if n = 0xF4 then some ⟨position, b, 1, 3, 0x80, 0x8F, 4⟩
  else if 0xF1 ≤ n ∧ n ≤ 0xF3 then some ⟨position, b, 1, 3, 0x80, 0xBF, n - 0xF0⟩
  else none

/-- Decodes byte by byte; `chars` holds the characters before, the last one first. -/
def decodeFrom (chars : List Char) (position : Nat) :
    Option Partial → List UInt8 → Except Issue (List Char)
  | none, [] => .ok chars.reverse
  | some p, [] => .error ⟨p.position, p.taken, p.first, .truncated⟩
  | none, b :: rest =>
    if b.toNat < 0x80 then decodeFrom (Char.ofNat b.toNat :: chars) (position + 1) none rest
    else
      match begin? position b with
      | some p => decodeFrom chars (position + 1) (some p) rest
      | none => .error ⟨position, 1, b, .start⟩
  | some p, b :: rest =>
    if p.low ≤ b.toNat ∧ b.toNat ≤ p.high then
      let bits := p.bits * 64 + (b.toNat - 0x80)
      if p.owed = 1 then decodeFrom (Char.ofNat bits :: chars) (position + 1) none rest
      else
        let p := { p with taken := p.taken + 1, owed := p.owed - 1, low := 0x80, high := 0xBF, bits := bits }
        decodeFrom chars (position + 1) (some p) rest
    else .error ⟨p.position, p.taken, p.first, .continuation⟩

/-- The characters that bytes encode. -/
def decode (bytes : List UInt8) : Except Issue (List Char) :=
  decodeFrom [] 0 none bytes

/-- The bytes of a text. -/
def encode (text : String) : List UInt8 :=
  text.toUTF8.toList

/-- The characters with every line end written as one newline. -/
def unifyLineEnds : List Char → List Char
  | [] => []
  | '\r' :: '\n' :: rest => '\n' :: unifyLineEnds rest
  | '\r' :: rest => '\n' :: unifyLineEnds rest
  | c :: rest => c :: unifyLineEnds rest

end GraphScript.Text.Utf8
