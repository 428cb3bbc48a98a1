import GraphScript.Text.Blank
import GraphScript.Text.Letter

namespace GraphScript.CSharp

/-- The reserved words. -/
def keywords : List String :=
  ["abstract", "as", "base", "bool", "break", "byte", "case", "catch", "char", "checked", "class",
   "const", "continue", "decimal", "default", "delegate", "do", "double", "else", "enum", "event",
   "explicit", "extern", "false", "finally", "fixed", "float", "for", "foreach", "goto", "if",
   "implicit", "in", "int", "interface", "internal", "is", "lock", "long", "namespace", "new",
   "null", "object", "operator", "out", "override", "params", "private", "protected", "public",
   "readonly", "ref", "return", "sbyte", "sealed", "short", "sizeof", "stackalloc", "static",
   "string", "struct", "switch", "this", "throw", "true", "try", "typeof", "uint", "ulong",
   "unchecked", "unsafe", "ushort", "using", "virtual", "void", "volatile", "while"]

def isKeyword (text : String) : Bool :=
  keywords.contains text

def startsWithDigit : List Char → Bool
  | c :: _ => Text.isDigit c
  | [] => false

/-- The word characters of a name, with an underscore for every other character and in front of a
leading digit. -/
def wordForm (cs : List Char) : List Char :=
  let word := cs.map fun c => if Text.isWord c then c else '_'
  if startsWithDigit word then '_' :: word else word

/-- An identifier for a display name, or `fallback` when nothing but blanks is left of it; a
reserved word is marked with `@`. -/
def sanitizeOr (fallback name : String) : String :=
  let word := wordForm (Text.trimList Text.isBlank name.toList)
  if word.isEmpty then fallback
  else
    let text := String.ofList word
    if isKeyword text then "@" ++ text else text

def sanitize (name : String) : String :=
  sanitizeOr "unnamed" name

def isPlainLetter (c : Char) : Bool :=
  ('a' ≤ c && c ≤ 'z') || ('A' ≤ c && c ≤ 'Z') || ('0' ≤ c && c ≤ '9')

/-- The class of an entity: its id in plain letters and digits behind the given start. -/
def className (start id : String) : String :=
  start ++ String.ofList (id.toList.map fun c => if isPlainLetter c then c else '_')

end GraphScript.CSharp
