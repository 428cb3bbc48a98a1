import GraphScript.Value.Display
import GraphScript.Value.Typed

namespace GraphScript

/-- A complaint about one place of a document. -/
structure Issue where
  path : List String
  message : String
  /-- A fault that leaves no room for complaints. -/
  fault : Option Fault
deriving DecidableEq, Repr

namespace Issue

def text (issue : Issue) : String :=
  let path := if issue.path.isEmpty then "<root>" else ".".intercalate issue.path
  path ++ ": " ++ issue.message

def under (step : String) (issue : Issue) : Issue :=
  { issue with path := step :: issue.path }

end Issue

/-- A value, or all complaints about what it was read from. -/
inductive Checked (α : Type) where
  | good (value : α)
  | bad (issues : List Issue)

namespace Checked

variable {α β : Type}

def map (f : α → β) : Checked α → Checked β
  | good a => good (f a)
  | bad issues => bad issues

/-- Applies a function; the complaints of both sides are kept. -/
def ap (f : Checked (α → β)) (a : Checked α) : Checked β :=
  match f, a with
  | good f, good a => good (f a)
  | good _, bad issues => bad issues
  | bad issues, good _ => bad issues
  | bad issues, bad more => bad (issues ++ more)

instance : Applicative Checked where
  pure := good
  seq f a := ap f (a ())

def complain (message : String) : Checked α :=
  bad [⟨[], message, none⟩]

/-- Stops at a fault. -/
def stop (fault : Fault) : Checked α :=
  bad [⟨[], fault.message, some fault⟩]

/-- Puts a step in front of the paths of all complaints. -/
def under (step : String) : Checked α → Checked α
  | good a => good a
  | bad issues => bad (issues.map (Issue.under step))

/-- Reads the items of a list, each under its position. -/
def items (read : Value → Checked α) (position : Nat) : List Value → Checked (List α)
  | [] => good []
  | item :: rest => ap (map List.cons (under (toString position) (read item))) (items read (position + 1) rest)

/-- Any value. -/
def any (value : Value) : Checked Value :=
  good value

def text (value : Value) : Checked String :=
  match value.asText? with
  | some s => if value.isWritable then good s else stop .integerTooLong
  | none => complain "Input should be a valid string"

/-- A text; null is empty. -/
def textOrEmpty : Value → Checked String
  | .null => good ""
  | value => text value

/-- A text or null. -/
def optionalText : Value → Checked (Option String)
  | .null => good none
  | value => map some (text value)

/-- An integer or null. -/
def optionalInteger : Value → Checked (Option Int)
  | .null => good none
  | value =>
    match value.asInteger with
    | .ok n => good (some n)
    | .error issue => complain issue.message

/-- A list; null is empty. -/
def listOf (read : Value → Checked α) : Value → Checked (List α)
  | .null => good []
  | .list values => items read 0 values
  | _ => complain "Input should be a valid list"

/-- The name of a key in a path. -/
def stepText (key : Value) : String :=
  match key with
  | .bool b => if b then "1" else "0"
  | key => key.display

/-- Names the values of a map one after another; of equal names the last value wins. -/
def named (acc : Params) : List (Value × Value) → Checked Params
  | [] => good acc
  | (key, value) :: rest =>
    let name := text key
    match name with
    | good name =>
      let acc :=
        if acc.any fun entry => entry.1 == name then
          acc.map fun entry => if entry.1 == name then (name, value) else entry
        else acc ++ [(name, value)]
      named acc rest
    | bad _ => ap (map (fun _ rest => rest) (under (stepText key) (under "[key]" name))) (named acc rest)

/-- A map with names for keys; null is empty. -/
def params : Value → Checked Params
  | .null => good []
  | .map entries => named [] entries
  | _ => complain "Input should be a valid dictionary"

/-- Reads a model with its fields from a map. -/
def model (title : String) (read : List (Value × Value) → Checked α) : Value → Checked α
  | .map entries => read entries
  | _ => complain ("Input should be a valid dictionary or instance of " ++ title)

/-- The first of the keys that is present, with its value. -/
def presentIn? (entries : List (Value × Value)) (keys : List String) : Option (String × Value) :=
  keys.findSome? fun key => (Value.find? key entries).map fun value => (key, value)

/-- A field: the value of the first key that is present, or the default. -/
def field (entries : List (Value × Value)) (keys : List String) (default : α)
    (read : Value → Checked α) : Checked α :=
  match presentIn? entries keys with
  | some (key, value) => under key (read value)
  | none => good default

/-- A field that has to be present. -/
def required (entries : List (Value × Value)) (key : String) (read : Value → Checked α) :
    Checked α :=
  match Value.find? key entries with
  | some value => under key (read value)
  | none => under key (complain "Field required")

end Checked

end GraphScript
