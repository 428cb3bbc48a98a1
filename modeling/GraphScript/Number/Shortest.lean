import GraphScript.Number.Binary64

namespace GraphScript

/-- The decimal number `digits * 10 ^ power`. -/
structure Decimal where
  digits : Nat
  power : Int
deriving DecidableEq, Repr

namespace Decimal

/-- A ratio divided by a power of ten, as a ratio. -/
def onGrid (num den : Nat) (power : Int) : Nat × Nat :=
  if 0 ≤ power then (num, den * Nat.pow 10 power.toNat) else (num * Nat.pow 10 (-power).toNat, den)

/-- The power of ten of the first digit of a positive ratio. -/
def leadingPower (num den : Nat) : Int :=
  if den ≤ num then (Binary64.decimalLength (num / den) : Int) - 1
  else
    let length := Binary64.decimalLength (den / num)
    if den ≤ num * Nat.pow 10 (length - 1) then 1 - (length : Int) else -(length : Int)

/-- Drops up to `fuel` zeros at the end of the digits. -/
def stripZeros : Nat → Decimal → Decimal
  | 0, d => d
  | fuel + 1, d =>
    if d.digits ≠ 0 ∧ d.digits % 10 = 0 then stripZeros fuel ⟨d.digits / 10, d.power + 1⟩ else d

/-- The point of the grid nearest to a positive ratio that reads back as `number`. -/
def readsBack? (number : Binary64) (num den : Nat) (power : Int) : Option Decimal :=
  let (n, d) := onGrid num den power
  let low := n / d
  let near := Binary64.roundDiv n d
  let far := if near = low then low + 1 else low
  if Binary64.ofDecimal false near power = number then some ⟨near, power⟩
  else if Binary64.ofDecimal false far power = number then some ⟨far, power⟩
  else none

/-- Seventeen digits tell every two numbers of double precision apart. -/
def maxDigits : Nat := 17

/-- The decimal with the fewest digits that reads back as the positive number, the nearest one
of these. -/
def shortest (mantissa : Nat) (exponent : Int) (canonical : Binary64.Canonical mantissa exponent) :
    Decimal :=
  let (num, den) := Binary64.ratio mantissa exponent
  let top := leadingPower num den
  let found := (List.range maxDigits).findSome? fun (places : Nat) =>
    readsBack? (.finite false mantissa exponent canonical) num den (top - places)
  match found with
  | some decimal => stripZeros maxDigits decimal
  | none =>
    let power := top - (maxDigits - 1 : Nat)
    let (n, d) := onGrid num den power
    stripZeros maxDigits ⟨Binary64.roundDiv n d, power⟩

/-- A positive ratio rounded to a count of significant digits. -/
def rounded (count num den : Nat) : Decimal :=
  let power := leadingPower num den - ((count : Int) - 1)
  let (n, d) := onGrid num den power
  stripZeros count ⟨Binary64.roundDiv n d, power⟩

/-- How digits become a text: numbers whose first digit stands below `10 ^ limit` are written
without an exponent, and `point` says whether an integer keeps `.0`. -/
structure Layout where
  limit : Int
  point : Bool

/-- At least two digits of an exponent, with its sign. -/
def exponentText (exponent : Int) : String :=
  let digits := toString exponent.natAbs
  let padded := if digits.length < 2 then "0" ++ digits else digits
  (if exponent < 0 then "e-" else "e+") ++ padded

def zeros (count : Nat) : String :=
  String.ofList (List.replicate count '0')

/-- The text of a positive decimal. -/
def write (layout : Layout) (d : Decimal) : String :=
  let digits := Nat.toDigits 10 d.digits
  let exponent := d.power + (digits.length : Int) - 1
  if exponent < -4 ∨ layout.limit ≤ exponent then
    let fraction := digits.drop 1
    String.ofList (digits.take 1) ++ (if fraction.isEmpty then "" else "." ++ String.ofList fraction) ++
      exponentText exponent
  else if exponent < 0 then
    "0." ++ zeros (-exponent - 1).toNat ++ String.ofList digits
  else
    let whole := exponent.toNat + 1
    if digits.length ≤ whole then
      String.ofList digits ++ zeros (whole - digits.length) ++ (if layout.point then ".0" else "")
    else String.ofList (digits.take whole) ++ "." ++ String.ofList (digits.drop whole)

end Decimal

namespace Binary64

/-- Numbers in full stand without an exponent up to 16 digits and always look fractional. -/
def fullLayout : Decimal.Layout := ⟨16, true⟩

/-- Numbers in brief stand without an exponent up to 6 digits. -/
def briefLayout : Decimal.Layout := ⟨6, false⟩

def signText (negative : Bool) : String :=
  if negative then "-" else ""

/-- The shortest text that reads back as the number. -/
def text : Binary64 → String
  | finite negative mantissa exponent canonical =>
    signText negative ++
      if mantissa = 0 then "0.0" else (Decimal.shortest mantissa exponent canonical).write fullLayout
  | infinite negative => signText negative ++ "inf"
  | undefined => "nan"

/-- The text with at most six significant digits. -/
def briefText : Binary64 → String
  | finite negative mantissa exponent _ =>
    let (num, den) := ratio mantissa exponent
    signText negative ++
      if mantissa = 0 then "0" else (Decimal.rounded 6 num den).write briefLayout
  | infinite negative => signText negative ++ "inf"
  | undefined => "nan"

end Binary64

end GraphScript
