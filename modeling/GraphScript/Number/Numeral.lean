import GraphScript.Number.Binary64
import GraphScript.Text.Blank
import GraphScript.Text.Letter

namespace GraphScript

/-- A decimal numeral: the sign, all digits as one number, and the power of ten of the last. -/
structure Numeral where
  negative : Bool
  digits : Nat
  power : Int
deriving DecidableEq, Repr

namespace Numeral

/-- The value of a digit of the base alphabet. -/
def asciiDigit? (c : Char) : Option Nat :=
  if '0' ≤ c ∧ c ≤ '9' then some (c.toNat - '0'.toNat) else none

/-- The leading digits of a text, and what follows them. -/
def spanDigits (digit : Char → Option Nat) : List Char → List Nat × List Char
  | [] => ([], [])
  | c :: rest =>
    match digit c with
    | some d =>
      let (ds, tail) := spanDigits digit rest
      (d :: ds, tail)
    | none => ([], c :: rest)

/-- The number written by a list of digits. -/
def ofDigits (ds : List Nat) : Nat :=
  ds.foldl (fun n d => 10 * n + d) 0

/-- A sign at the front, and what follows it. -/
def spanSign : List Char → Bool × List Char
  | '-' :: rest => (true, rest)
  | '+' :: rest => (false, rest)
  | cs => (false, cs)

/-- The exponent that ends a numeral: nothing, or a mark, a sign and digits. -/
def exponent? (digit : Char → Option Nat) : List Char → Option Int
  | [] => some 0
  | c :: rest =>
    if c = 'e' ∨ c = 'E' then
      let (negative, rest) := spanSign rest
      match spanDigits digit rest with
      | ([], _) => none
      | (ds, []) => some (Binary64.withSign negative (ofDigits ds))
      | (_, _ :: _) => none
    else none

/-- The digits after a point, if there is one. -/
def spanFraction (digit : Char → Option Nat) : List Char → List Nat × List Char
  | '.' :: rest => spanDigits digit rest
  | cs => ([], cs)

/-- Reads a whole text as a numeral: a sign, digits with at most one point among or around them,
and an exponent. -/
def read? (digit : Char → Option Nat) (cs : List Char) : Option Numeral :=
  let (negative, body) := spanSign cs
  let (whole, rest) := spanDigits digit body
  let (fraction, rest) := spanFraction digit rest
  if whole.isEmpty ∧ fraction.isEmpty then none
  else (exponent? digit rest).map fun power =>
    ⟨negative, ofDigits (whole ++ fraction), power - fraction.length⟩

def toBinary64 (n : Numeral) : Binary64 :=
  .ofDecimal n.negative n.digits n.power

/-- Reads a whole text as a signed integer. -/
def readInt? (digit : Char → Option Nat) (cs : List Char) : Option Int :=
  let (negative, body) := spanSign cs
  match spanDigits digit body with
  | ([], _) => none
  | (ds, []) => some (Binary64.withSign negative (ofDigits ds))
  | (_, _ :: _) => none

/-- Drops underscores that stand between two digits; any other underscore spoils the text. -/
def joinDigits? (digit : Char → Option Nat) (previous : Bool) : List Char → Option (List Char)
  | [] => some []
  | '_' :: rest =>
    match rest with
    | [] => none
    | c :: _ =>
      if previous && (digit c).isSome then joinDigits? digit false rest else none
  | c :: rest => (joinDigits? digit (digit c).isSome rest).map (c :: ·)

/-- Drops underscores unless one stands first, last or beside another. -/
def joinLoosely? (cs : List Char) : Option (List Char) :=
  let doubled := (cs.zip (cs.drop 1)).any fun pair => pair.1 == '_' && pair.2 == '_'
  if cs.head? = some '_' ∨ cs.getLast? = some '_' ∨ doubled then none
  else some (cs.filter (· != '_'))

/-- The numeral of a text of any script, with blanks around it. -/
def ofText? (text : String) : Option Numeral :=
  read? Text.decimalValue? (Text.trimList Text.isBlank text.toList)

/-- A signed name of an infinite or undefined number, in any case. -/
def special? (cs : List Char) : Option Binary64 :=
  let (negative, body) := spanSign cs
  let name := String.ofList (body.map Char.toLower)
  if name = "inf" ∨ name = "infinity" then some (.infinite negative)
  else if name = "nan" then some .undefined
  else none

/-- Reads a setting as a number: spaces around it, underscores between digits, digits of any
script, and the names of infinite numbers. -/
def setting? (text : String) : Option Binary64 :=
  let cs := Text.trimList Text.isSpace text.toList
  match special? cs with
  | some x => some x
  | none => do
    let cs ← joinDigits? Text.decimalValue? false cs
    let n ← read? Text.decimalValue? cs
    return n.toBinary64

/-- The most digits that the text of an integer may have. -/
def digitLimit : Nat := 4300

/-- Reads a setting as an integer. -/
def settingInt? (text : String) : Option Int := do
  let cs ← joinDigits? Text.decimalValue? false (Text.trimList Text.isSpace text.toList)
  if digitLimit < (spanDigits Text.decimalValue? (spanSign cs).2).1.length then none
  else readInt? Text.decimalValue? cs

/-- A numeral of the base alphabet, as a finite number. -/
def finite? (cs : List Char) : Option Binary64 := do
  let x := (← read? asciiDigit? cs).toBinary64
  if x.isFinite then some x else none

/-- Reads a parameter as a finite number, with spaces around it or else with loose underscores. -/
def parameter? (text : String) : Option Binary64 :=
  finite? (Text.trimList Text.isSpace text.toList) <|> (joinLoosely? text.toList).bind finite?

/-- A minus sign at the front, and what follows it. -/
def spanMinus : List Char → Bool × List Char
  | '-' :: rest => (true, rest)
  | cs => (false, cs)

/-- Reads a whole text as an integer in its one plain form: a minus sign at most, and digits that
start with zero only if it is the only one. -/
def plainInt? (cs : List Char) : Option Int :=
  let (negative, body) := spanMinus cs
  match spanDigits asciiDigit? body with
  | (0 :: _ :: _, _) => none
  | (ds, []) =>
    if ds.isEmpty ∨ digitLimit < ds.length then none
    else some (Binary64.withSign negative (ofDigits ds))
  | (_, _ :: _) => none

/-- Whether a text starts, after a minus sign at most, with more digits than an integer may have. -/
def isOverlong (cs : List Char) : Bool :=
  let ds := (spanDigits asciiDigit? (spanMinus cs).2).1
  ds.head? != some 0 && digitLimit < ds.length

/-- The digits before a point that only zeros follow. -/
def dropZeroFraction (cs : List Char) : List Char :=
  let whole := cs.takeWhile (· != '.')
  let fraction := (cs.dropWhile (· != '.')).drop 1
  if !fraction.isEmpty && fraction.all (· == '0') then whole else cs

/-- Drops a plus sign, which no minus sign may follow. -/
def dropPlus? : List Char → Option (List Char)
  | '+' :: '-' :: _ => none
  | '+' :: rest => some rest
  | cs => some cs

/-- Skips zeros and underscores after a leading zero, up to another digit or a minus sign; `last`
is the character before. -/
def skipZeros? (last : Char) : List Char → Option (List Char)
  | [] => some [last]
  | c :: rest =>
    if c = '0' ∨ c = '_' then skipZeros? c rest
    else if ('1' ≤ c ∧ c ≤ '9') ∨ c = '-' then some (c :: rest)
    else if c = '.' then some (last :: c :: rest)
    else none

/-- Drops leading zeros but the last one; a text that starts with no digit is none. -/
def dropZeros? : List Char → Option (List Char)
  | '0' :: rest => skipZeros? '0' rest
  | c :: rest => if '1' ≤ c ∧ c ≤ '9' then some (c :: rest) else none
  | [] => none

/-- The plain form of an integer that is written with spaces around it, a plus sign, leading
zeros, loose underscores or a fraction of zeros. -/
def plainForm? (text : String) : Option (List Char) := do
  let (negative, cs) := spanMinus (← dropPlus? (Text.trimList Text.isSpace text.toList))
  let cs := dropZeroFraction (← dropZeros? cs)
  let cs := (joinLoosely? cs).getD cs
  return if negative then '-' :: cs else cs

/-- Reads a parameter as an integer. -/
def parameterInt? (text : String) : Option Int :=
  plainInt? text.toList <|> (plainForm? text).bind plainInt?

end Numeral

end GraphScript
