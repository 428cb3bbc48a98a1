import GraphScript.Number.Numeral
import GraphScript.Text.Letter

namespace GraphScript

/-- A reason to stop. -/
inductive Fault where
  /-- An integer beyond the range of binary numbers was used as a number. -/
  | integerTooLarge
  /-- An infinite number was cut to an integer. -/
  | infiniteInteger
  /-- A name stands for nothing. -/
  | unknownName (name : String)
  /-- A numeral has more digits than the text of an integer may have. -/
  | numeralTooLong (digits : Nat)
  /-- The text of an integer would have too many digits. -/
  | integerTooLong
  /-- A text is no numeral of the base. -/
  | noNumeral (base : Nat) (text : String)
  /-- A text is no number. -/
  | noNumber (text : String)
  /-- A code beyond the last character. -/
  | noCharacter
  /-- A code beyond the range in which characters are looked up. -/
  | codeTooLarge
deriving DecidableEq, Repr

namespace Fault

/-- The words about a text of an integer with too many digits; `found` tells how many it has. -/
def tooManyDigits (found : String) : String :=
  "Exceeds the limit (" ++ toString Numeral.digitLimit ++ " digits) for integer string conversion" ++
    found ++ "; use sys.set_int_max_str_digits() to increase the limit"

def message : Fault → String
  | integerTooLarge => "int too large to convert to float"
  | infiniteInteger => "cannot convert float infinity to integer"
  | unknownName name => Text.quoted name
  | numeralTooLong digits => tooManyDigits (": value has " ++ toString digits ++ " digits")
  | integerTooLong => tooManyDigits ""
  | noNumeral base text =>
    "invalid literal for int() with base " ++ toString base ++ ": " ++ Text.quoted text
  | noNumber text => "could not convert string to float: " ++ Text.quoted text
  | noCharacter => "chr() arg not in range(0x110000)"
  | codeTooLarge => "Python int too large to convert to C int"

end Fault

end GraphScript
