import GraphScript.Json.Reader
import GraphScript.Text.Blank
import GraphScript.Yaml.Reader

namespace GraphScript

inductive Format where
  | json
  | yaml
deriving DecidableEq, Repr

/-- Why a text is no document. -/
inductive LoadIssue where
  | json (error : Json.Error)
  | yaml (issue : Yaml.Issue)
  /-- The text has the right form, but a value in it cannot be had. -/
  | fault (fault : Fault)

def LoadIssue.message : LoadIssue → String
  | json e =>
    "Invalid JSON at line " ++ toString e.line ++ " column " ++ toString e.column ++ ": " ++ e.cause.message
  | yaml i => "Invalid YAML: " ++ i.message
  | fault f => f.message

def LoadIssue.ofJson (e : Json.Error) : LoadIssue :=
  match e.cause with
  | .fault f => fault f
  | _ => json e

def LoadIssue.ofYaml : Yaml.Issue → LoadIssue
  | .fault f => fault f
  | issue => yaml issue

/-- The format of a text: a bracket or a brace at its start tells. -/
def Format.detect (text : String) : Format :=
  match text.toList.dropWhile Text.isBlank with
  | '[' :: _ => .json
  | '\x7b' :: _ => .json
  | _ => .yaml

/-- A library that reads documents of the second format. It makes of a text a document, an issue or a
fault, and nothing is known about which. -/
abbrev Yaml.Library := String → Except Yaml.Issue Value

/-- Reads a document, detecting its format unless it is given. -/
def loadDocumentBy (yaml : Yaml.Library) (given : Option Format) (text : String) :
    Except LoadIssue Value :=
  match given.getD (.detect text) with
  | .json => (Json.read text).mapError .ofJson
  | .yaml => (yaml text).mapError .ofYaml

/-- Reads a document with the library of the program. -/
def loadDocument (given : Option Format) (text : String) : Except LoadIssue Value :=
  loadDocumentBy Yaml.read given text

end GraphScript
