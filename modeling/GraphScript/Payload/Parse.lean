import GraphScript.Document
import GraphScript.Files.Basic
import GraphScript.Model.Project
import GraphScript.Payload.Shape

namespace GraphScript

/-- Why there is no project. -/
inductive PayloadIssue where
  | notObject (source : Option String) (kind : String)
  | shape (source : Option String) (complaints : List String)
  | rejected (source : Option String) (issues : List Issue)
  | unparsable (source : Option String) (reason : String)
  | unreadable (path reason : String)
  /-- A value cannot be had, or not be written. -/
  | fault (fault : Fault)

namespace PayloadIssue

/-- Where a payload comes from, behind some words; an empty name says nothing. -/
def place (words : String) : Option String → String
  | some name => if name = "" then "" else words ++ name
  | none => ""

/-- The single complaints. -/
def details : PayloadIssue → List String
  | shape _ complaints => complaints
  | rejected _ issues => issues.map Issue.text
  | _ => []

def message : PayloadIssue → String
  | notObject source kind => "Payload" ++ place " in " source ++ " must be an object, got " ++ kind
  | shape source complaints =>
    "Schema validation error" ++ place " in " source ++ ": " ++ complaints.headD ""
  | rejected source issues =>
    "Invalid payload" ++ place " in " source ++ ": " ++ (issues.map Issue.text).headD ""
  | unparsable source reason => "Cannot parse payload" ++ place " " source ++ ": " ++ reason
  | unreadable path reason => "Cannot read payload " ++ path ++ ": " ++ reason
  | fault f => f.message

end PayloadIssue

/-- The project of a document; `checkShape` says whether its shape is checked. -/
def parsePayload (checkShape : Bool) (source : Option String) (document : Value) :
    Except PayloadIssue Project :=
  match document with
  | .map entries =>
    let complaints := if checkShape then Shape.complaints document else []
    if !complaints.isEmpty then
      .error (if document.isWritable then .shape source complaints else .fault .integerTooLong)
    else
      match Project.ofPayload entries with
      | .ok project => .ok project
      | .error rejection =>
        match rejection.fault? with
        | some f => .error (.fault f)
        | none => .error (.rejected source rejection.issues)
  | other => .error (.notObject source other.kind)

/-- The project of a text. -/
def loadPayloadBy (yaml : Yaml.Library) (checkShape : Bool) (source : Option String) (text : String) :
    Except PayloadIssue Project :=
  match loadDocumentBy yaml none text with
  | .ok document => parsePayload checkShape source document
  | .error (.fault f) => .error (.fault f)
  | .error issue => .error (.unparsable source issue.message)

def loadPayload (checkShape : Bool) (source : Option String) (text : String) :
    Except PayloadIssue Project :=
  loadPayloadBy Yaml.read checkShape source text

/-- Why a file gave no project. -/
inductive PayloadFailure where
  | payload (issue : PayloadIssue)
  /-- The path is none. -/
  | path (failure : Files.Failure)
  | encoding (issue : Text.Utf8.Issue)

/-- The project of a file. -/
def loadPayloadFileBy (yaml : Yaml.Library) (checkShape : Bool) (files : Files) (path : String) :
    Except PayloadFailure Project :=
  let place := Files.Path.ofText path
  match files.readText place with
  | .error (.file failure) =>
    .error (if failure.cause = .nullCharacter then .path failure
      else .payload (.unreadable place.text failure.cause.reason))
  | .error (.encoding issue) => .error (.encoding issue)
  | .ok text => (loadPayloadBy yaml checkShape (some place.text) text).mapError .payload

def loadPayloadFile (checkShape : Bool) (files : Files) (path : String) :
    Except PayloadFailure Project :=
  loadPayloadFileBy Yaml.read checkShape files path

end GraphScript
