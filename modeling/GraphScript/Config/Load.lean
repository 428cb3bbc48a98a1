import GraphScript.Config.Read
import GraphScript.Document
import GraphScript.Files.Basic

namespace GraphScript.Config

/-- Why a file gave no settings. -/
inductive LoadFailure where
  | settings (failure : Failure)
  | file (failure : Files.Failure)
  | encoding (issue : Text.Utf8.Issue)

/-- The entries of a settings file; an empty document has none. -/
def fileEntriesBy (yaml : Yaml.Library) (files : Files) (path : String) :
    Except LoadFailure (List (Value × Value)) :=
  let place := Files.Path.ofText path
  match files.readText place with
  | .error (.file failure) =>
    if failure.cause = .missing then .error (.settings (.issue (.missingFile path)))
    else .error (.file failure)
  | .error (.encoding issue) => .error (.encoding issue)
  | .ok text =>
    match loadDocumentBy yaml (if place.isJson then some .json else none) text with
    | .error (.fault f) => .error (.settings (.fault f))
    | .error issue => .error (.settings (.issue (.unreadable path issue.message)))
    | .ok .null => .ok []
    | .ok (.map entries) => .ok entries
    | .ok other => .error (.settings (.issue (.notMapping path other.kind)))

def fileEntries (files : Files) (path : String) : Except LoadFailure (List (Value × Value)) :=
  fileEntriesBy Yaml.read files path

/-- The settings of a file, if one is given, and of the environment. -/
def loadBy (yaml : Yaml.Library) (files : Files) (path : Option String)
    (environment : Log.Environment) : List Log.Note × Except LoadFailure Config :=
  match path with
  | none =>
    let (notes, result) := layered [] environment
    (notes, result.mapError .settings)
  | some path =>
    match fileEntriesBy yaml files path with
    | .error failure => ([], .error failure)
    | .ok entries =>
      let (notes, result) := layered entries environment
      (note ("Loaded config from " ++ path) :: notes, result.mapError .settings)

def load (files : Files) (path : Option String) (environment : Log.Environment) :
    List Log.Note × Except LoadFailure Config :=
  loadBy Yaml.read files path environment

end GraphScript.Config
