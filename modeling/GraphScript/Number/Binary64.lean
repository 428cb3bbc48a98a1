namespace GraphScript

/-- The exponent of the smallest positive number. -/
def Binary64.minExponent : Int := -1074

/-- The exponent of the largest finite numbers. -/
def Binary64.maxExponent : Int := 971

/-- A mantissa has 53 bits, or fewer under the least exponent, and the exponent is in range. -/
def Binary64.Canonical (mantissa : Nat) (exponent : Int) : Prop :=
  mantissa < Nat.pow 2 53 ∧ minExponent ≤ exponent ∧ exponent ≤ maxExponent ∧
    (Nat.pow 2 52 ≤ mantissa ∨ exponent = minExponent)

instance (mantissa : Nat) (exponent : Int) : Decidable (Binary64.Canonical mantissa exponent) :=
  inferInstanceAs (Decidable (_ ∧ _))

/-- A number of double precision. -/
inductive Binary64 where
  | finite (negative : Bool) (mantissa : Nat) (exponent : Int)
    (canonical : Binary64.Canonical mantissa exponent)
  | infinite (negative : Bool)
  | undefined
deriving DecidableEq, Repr

namespace Binary64

/-- The integer nearest to a quotient; a tie goes to the even neighbour. -/
def roundDiv (num den : Nat) : Nat :=
  let quotient := num / den
  let twice := 2 * (num % den)
  if twice < den then quotient
  else if den < twice then quotient + 1
  else if quotient % 2 = 0 then quotient
  else quotient + 1

/-- A ratio divided by a power of two, as a ratio. -/
def scaled (num den : Nat) (exponent : Int) : Nat × Nat :=
  if 0 ≤ exponent then (num, den * Nat.pow 2 exponent.toNat) else (num * Nat.pow 2 (-exponent).toNat, den)

/-- The exponent under which a positive ratio has a mantissa of 53 bits, but at least the least. -/
def exponentFor (num den : Nat) : Int :=
  let guess : Int := max ((num.log2 : Int) - den.log2 - 53) minExponent
  let (n, d) := scaled num den guess
  if n / d < Nat.pow 2 53 then guess else guess + 1

/-- The number of a mantissa and an exponent, infinite when there is no finite one. -/
def pack (negative : Bool) (mantissa : Nat) (exponent : Int) : Binary64 :=
  if h : Canonical mantissa exponent then finite negative mantissa exponent h else infinite negative

def zero (negative : Bool) : Binary64 :=
  finite negative 0 minExponent (by decide)

/-- The number nearest to a ratio with a positive denominator. -/
def ofRatio (negative : Bool) (num den : Nat) : Binary64 :=
  if num = 0 then zero negative
  else
    let exponent := exponentFor num den
    let (n, d) := scaled num den exponent
    let mantissa := roundDiv n d
    if mantissa < Nat.pow 2 53 then pack negative mantissa exponent
    else pack negative (Nat.pow 2 52) (exponent + 1)

/-- How many decimal digits a number has; zero has one. -/
def decimalLength (n : Nat) : Nat :=
  (Nat.toDigits 10 n).length

/-- The number nearest to `digits * 10 ^ exponent`. Far outside the range of finite numbers the
answer does not depend on the digits. -/
def ofDecimal (negative : Bool) (digits : Nat) (exponent : Int) : Binary64 :=
  let size := (decimalLength digits : Int) + exponent
  if digits = 0 then zero negative
  else if size < -400 then zero negative
  else if 400 < size then infinite negative
  else if 0 ≤ exponent then ofRatio negative (digits * Nat.pow 10 exponent.toNat) 1
  else ofRatio negative digits (Nat.pow 10 (-exponent).toNat)

def ofNat (n : Nat) : Binary64 :=
  ofRatio false n 1

def isFinite : Binary64 → Bool
  | finite _ _ _ _ => true
  | _ => false

/-- The nearest finite number, unless the integer is too large for one. -/
def ofInt? (n : Int) : Option Binary64 :=
  let x := ofRatio (n < 0) n.natAbs 1
  if x.isFinite then some x else none

/-- The magnitude of a finite number as a ratio. -/
def ratio (mantissa : Nat) (exponent : Int) : Nat × Nat :=
  (mantissa * Nat.pow 2 exponent.toNat, Nat.pow 2 (-exponent).toNat)

def isZero : Binary64 → Bool
  | finite _ mantissa _ _ => mantissa == 0
  | _ => false

/-- Strictly below zero. -/
def isNegative : Binary64 → Bool
  | finite negative mantissa _ _ => negative && mantissa != 0
  | infinite negative => negative
  | undefined => false

/-- Strictly above zero. -/
def isPositive : Binary64 → Bool
  | finite negative mantissa _ _ => !negative && mantissa != 0
  | infinite negative => !negative
  | undefined => false

/-- A finite number without a fraction. -/
def isInteger : Binary64 → Bool
  | finite _ mantissa exponent _ =>
    let (n, d) := ratio mantissa exponent
    n % d == 0
  | _ => false

/-- Whether the magnitude of a finite number is below a limit. -/
def magnitudeBelow (limit : Nat) : Binary64 → Bool
  | finite _ mantissa exponent _ =>
    let (n, d) := ratio mantissa exponent
    n < limit * d
  | _ => false

def withSign (negative : Bool) (n : Nat) : Int :=
  if negative then -(n : Int) else n

/-- The integer part of a finite number, toward zero. -/
def truncate? : Binary64 → Option Int
  | finite negative mantissa exponent _ =>
    let (n, d) := ratio mantissa exponent
    some (withSign negative (n / d))
  | _ => none

/-- The integer nearest to a finite number; a tie goes to the even neighbour. -/
def round? : Binary64 → Option Int
  | finite negative mantissa exponent _ =>
    let (n, d) := ratio mantissa exponent
    some (withSign negative (roundDiv n d))
  | _ => none

def neg : Binary64 → Binary64
  | finite negative mantissa exponent canonical => finite (!negative) mantissa exponent canonical
  | infinite negative => infinite (!negative)
  | undefined => undefined

def mul : Binary64 → Binary64 → Binary64
  | finite s m e _, finite t n f _ =>
    let (a, b) := ratio m e
    let (c, d) := ratio n f
    ofRatio (s != t) (a * c) (b * d)
  | finite s m _ _, infinite t => if m = 0 then undefined else infinite (s != t)
  | infinite s, finite t n _ _ => if n = 0 then undefined else infinite (s != t)
  | infinite s, infinite t => infinite (s != t)
  | _, _ => undefined

def add : Binary64 → Binary64 → Binary64
  | finite s m e _, finite t n f _ =>
    let (a, b) := ratio m e
    let (c, d) := ratio n f
    let sum := withSign s (a * d) + withSign t (c * b)
    ofRatio (if sum = 0 then s && t else sum < 0) sum.natAbs (b * d)
  | finite _ _ _ _, infinite t => infinite t
  | infinite s, finite _ _ _ _ => infinite s
  | infinite s, infinite t => if s = t then infinite s else undefined
  | _, _ => undefined

def div : Binary64 → Binary64 → Binary64
  | finite s m e _, finite t n f _ =>
    if n = 0 then if m = 0 then undefined else infinite (s != t)
    else
      let (a, b) := ratio m e
      let (c, d) := ratio n f
      ofRatio (s != t) (a * d) (b * c)
  | finite s _ _ _, infinite t => zero (s != t)
  | infinite s, finite t _ _ _ => infinite (s != t)
  | _, _ => undefined

/-- Equality of values: the two zeros are equal, and an undefined number equals nothing. -/
def sameValue : Binary64 → Binary64 → Bool
  | finite s m e _, finite t n f _ =>
    let (a, b) := ratio m e
    let (c, d) := ratio n f
    withSign s (a * d) == withSign t (c * b)
  | infinite s, infinite t => s == t
  | _, _ => false

end Binary64

end GraphScript
