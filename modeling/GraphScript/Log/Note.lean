import GraphScript.Log.Settings
import GraphScript.Value.Display
import GraphScript.Fault

namespace GraphScript.Log

/-- A message of a source, or the trace of one lowering. -/
inductive Note where
  | message (source : String) (level : Level) (text : String)
  /-- A message about a value that cannot be written: to show it is a fault. -/
  | unwritable (source : String) (level : Level)
  | lowering (source table kind detail : String)
deriving DecidableEq, Repr

namespace Note

/-- The mark in front of a message. -/
def label : Level → String
  | .warning => "WARN"
  | level => level.name

def isShown (settings : Settings) : Note → Bool
  | message source level _ => settings.shows source level
  | unwritable source level => settings.shows source level
  | lowering source _ _ _ => settings.trace && settings.shows source .info

/-- A message about a value. -/
def about (value : Value) (source : String) (level : Level) (text : String) : Note :=
  if value.isWritable then message source level text else unwritable source level

/-- Whether a note is to be shown and cannot be. -/
def isBroken (settings : Settings) (note : Note) : Bool :=
  match note with
  | unwritable _ _ => note.isShown settings
  | _ => false

/-- The line of a note. -/
def line : Note → String
  | unwritable source level => "[" ++ source ++ "] " ++ label level ++ ": "
  | message source level text => "[" ++ source ++ "] " ++ label level ++ ": " ++ text
  | lowering source table kind detail =>
    let suffix := if detail = "" then "" else " (" ++ detail ++ ")"
    "[" ++ source ++ "] LOWER: " ++ table ++ "/" ++ kind ++ suffix

end Note

/-- What the console shows of the notes. -/
def console (settings : Settings) (notes : List Note) : String :=
  String.join ((notes.filter (Note.isShown settings)).map fun note => note.line ++ "\n")

/-- The integer that a value is written as. -/
def integerText? : Value → Except Fault (Option String)
  | .bool b => .ok (some (if b then "1" else "0"))
  | .int n => .ok (some (toString n))
  | .float x =>
    match x with
    | .infinite _ => .error .infiniteInteger
    | _ => .ok (x.truncate?.map toString)
  | _ => .ok none

/-- Fills the gaps of a message: `%s` takes the text of an argument, `%r` its quoted text, `%d` an
integer, and `%%` is a percent sign. There is no result unless every gap is known and the
arguments are as many as the gaps. -/
def fill? : List Char → List Value → Except Fault (Option String)
  | [], args => .ok (if args.isEmpty then some "" else none)
  | '%' :: '%' :: rest, args => do return (← fill? rest args).map ("%" ++ ·)
  | '%' :: conversion :: rest, arg :: args =>
    if conversion = 's' then do return (← fill? rest args).map (arg.display ++ ·)
    else if conversion = 'r' then do return (← fill? rest args).map (arg.quoted ++ ·)
    else if conversion = 'd' ∨ conversion = 'i' then do
      match ← integerText? arg with
      | some text => return (← fill? rest args).map (text ++ ·)
      | none => return none
    else .ok none
  | '%' :: _, _ => .ok none
  | c :: rest, args => do return (← fill? rest args).map (c.toString ++ ·)

/-- The message with its arguments; where they do not fit, they follow it. -/
def filled (message : String) (args : List Value) : Except Fault String := do
  if args.isEmpty then return message
  match ← fill? message.toList args with
  | some text => return text
  | none => return message ++ " " ++ Value.quotedTuple args

end GraphScript.Log
