import GraphScript.Command.Usage
import GraphScript.Config.Load
import GraphScript.Log.Sink
import GraphScript.Payload.Parse
import GraphScript.Script.Project

namespace GraphScript.Command

/-- What a run depends on. -/
structure World where
  arguments : List String
  environment : Log.Environment
  files : Files
  /-- The text on the standard input. -/
  input : String
  clock : Log.Clock

/-- What ends a run without an exit code. -/
inductive Failure where
  | file (failure : Files.Failure)
  | encoding (issue : Text.Utf8.Issue)
  | fault (fault : Fault)
  | settingKey (position : Nat) (kind : String)
  | sink (issue : Log.SinkIssue)
  /-- An option that needs a value was given without one. -/
  | noValue (flag : Flag)

def Failure.message : Failure → String
  | file failure => failure.message
  | encoding issue => issue.message
  | fault f => f.message
  | settingKey position kind =>
    "sequence item " ++ toString position ++ ": expected str instance, " ++ kind ++ " found"
  | sink issue => issue.message
  | noValue .config => "expected str, bytes or os.PathLike object, not list"
  | noValue _ => "unhashable type: 'list'"

/-- What a run leaves behind. -/
structure Outcome where
  output : String
  errors : String
  files : Files
  exit : Except Failure Nat

/-- A run as far as it went. -/
structure Progress where
  output : String
  notes : List Log.Note
  sinks : Log.Sinks
  files : Files

namespace Progress

def print (p : Progress) (text : String) : Progress :=
  { p with output := p.output ++ text ++ "\n" }

def note (p : Progress) (notes : List Log.Note) : Progress :=
  { p with notes := p.notes ++ notes }

/-- Complaints of the command itself. -/
def complain (p : Progress) (texts : List String) : Progress :=
  p.note (texts.map fun text => .message "cli" .error text)

/-- The stream of the records about a run. -/
def stream : String := "compiler"

def record (p : Progress) (clock : Log.Clock) (fields : Params) : Progress × Except Failure Unit :=
  let ((sinks, files), result) := p.sinks.emit clock stream fields p.files
  ({ p with sinks := sinks, files := files }, (result.map fun _ => ()).mapError .file)

/-- Logs and records what a lowering did, up to the first record that cannot be written. -/
def play (clock : Log.Clock) : List Effect → Progress → Progress × Except Failure Unit
  | [], p => (p, .ok ())
  | effect :: rest, p =>
    let p := p.note effect.note?.toList
    match effect.record? with
    | none => play clock rest p
    | some fields =>
      match p.record clock fields with
      | (p, .ok ()) => play clock rest p
      | (p, .error failure) => (p, .error failure)

/-- Writes artifacts into a directory that exists; the paths are those that were written. -/
def writeEach (directory : Files.Path) :
    List Artifact → Progress → Progress × Except Failure (List Files.Path)
  | [], p => (p, .ok [])
  | a :: rest, p =>
    let path := directory.join (.ofText a.fileName)
    match p.files.writeText path a.source with
    | (files, .error failure) => ({ p with files := files }, .error (.file failure))
    | (files, .ok ()) =>
      let p := { p with files := files }
      let p := p.note [.message "importer" .debug ("Wrote " ++ path.text)]
      match writeEach directory rest p with
      | (p, .ok paths) => (p, .ok (path :: paths))
      | (p, .error failure) => (p, .error failure)

/-- Writes artifacts into a directory. -/
def writeArtifacts (directory : Files.Path) (artifacts : List Artifact) (p : Progress) :
    Progress × Except Failure (List Files.Path) :=
  match p.files.ensureDirectories directory with
  | (files, .error failure) => ({ p with files := files }, .error (.file failure))
  | (files, .ok ()) => writeEach directory artifacts { p with files := files }

/-- Writes the manifest of artifacts. -/
def writeManifest (path : Files.Path) (artifacts : List Artifact) (p : Progress) :
    Progress × Except Failure Unit :=
  match p.files.ensureDirectories path.parent with
  | (files, .error failure) => ({ p with files := files }, .error (.file failure))
  | (files, .ok ()) =>
    let (files, result) := files.writeText path (Json.pretty 0 (manifest artifacts) ++ "\n")
    ({ p with files := files }, result.mapError .file)

/-- Prints the sources instead of writing them. -/
def printSources (artifacts : List Artifact) (p : Progress) : Progress :=
  artifacts.foldl (fun p a =>
    { p with output := p.output ++ "// ===== " ++ a.fileName ++ " =====\n" ++ a.source }) p

/-- Writes what was compiled: the artifacts, and the manifest if one is wanted. -/
def deliver (options : Options) (config : Config) (artifacts : List Artifact) (p : Progress) :
    Progress × Except Failure Nat :=
  if options.dryRun then (p.printSources artifacts, .ok 0)
  else
    let directory := (options.out.filter (· != "")).getD config.outputDir
    match p.writeArtifacts (.ofText directory) artifacts with
    | (p, .error failure) => (p, .error failure)
    | (p, .ok paths) =>
      let p := paths.foldl (fun p path => p.print ("Generated: " ++ path.text)) p
      match options.manifest.filter (· != "") with
      | none => (p, .ok 0)
      | some text =>
        let path := Files.Path.ofText text
        match p.writeManifest path artifacts with
        | (p, .error failure) => (p, .error failure)
        | (p, .ok ()) => (p.print ("Manifest: " ++ path.text), .ok 0)

end Progress

/-- The exit code of a run whose settings or payload cannot be used. -/
def refused : Nat := 2

/-- The project that the options name. -/
def loadProject (world : World) (options : Options) : Except PayloadFailure Project :=
  let checkShape := !Log.Settings.isSwitchedOn world.environment "UNIFORGE_SKIP_SCHEMA_VALIDATION"
  if options.payload = "-" then
    (loadPayload checkShape (some "<stdin>") world.input).mapError .payload
  else loadPayloadFile checkShape world.files options.payload

/-- The settings file that the options name. -/
def Options.configPath (options : Options) : Except Failure (Option String) :=
  match options.config with
  | some none => .error (.noValue .config)
  | some (some path) => .ok (some path)
  | none => .ok none

/-- The entities that are wanted; all of them if there are none. -/
def Options.wanted (options : Options) : Except Failure (Option (List String)) :=
  match options.entities with
  | none => .ok none
  | some values =>
    if values.contains none then .error (.noValue .entity) else .ok (some (values.filterMap id))

/-- Compiles a project and writes the results. -/
def compileWith (world : World) (options : Options) (log : Log.Settings) (config : Config)
    (project : Project) (p : Progress) : Progress × Except Failure Nat :=
  match options.wanted with
  | .error failure => (p, .error failure)
  | .ok wanted =>
    let lowered := (compileProject config wanted project).shown log
    match p.play world.clock lowered.effects with
    | (p, .error failure) => (p, .error failure)
    | (p, .ok ()) =>
      match lowered.result with
      | .error fault => (p, .error (.fault fault))
      | .ok artifacts => p.deliver options config artifacts

/-- Reads settings and payload, compiles, and writes the results. -/
def compileFrom (world : World) (options : Options) (log : Log.Settings) (path : Option String)
    (p : Progress) : Progress × Except Failure Nat :=
  let (notes, settings) := Config.load world.files path world.environment
  let p := p.note notes
  match settings with
  | .error (.settings (.issue issue)) => (p.complain [issue.message], .ok refused)
  | .error (.settings (.fault fault)) => (p, .error (.fault fault))
  | .error (.settings (.keyKind position kind)) => (p, .error (.settingKey position kind))
  | .error (.file failure) => (p, .error (.file failure))
  | .error (.encoding issue) => (p, .error (.encoding issue))
  | .ok config =>
    match loadProject world options with
    | .error (.encoding issue) => (p, .error (.encoding issue))
    | .error (.path failure) => (p, .error (.file failure))
    | .error (.payload (.fault fault)) => (p, .error (.fault fault))
    | .error (.payload issue) =>
      (p.complain (issue.message :: (issue.details.drop 1).map ("  " ++ ·)), .ok refused)
    | .ok project => compileWith world options log config project p

/-- Does what the options ask for. -/
def compile (world : World) (options : Options) (log : Log.Settings) (p : Progress) :
    Progress × Except Failure Nat :=
  match options.configPath with
  | .error failure => (p, .error failure)
  | .ok path => compileFrom world options log path p

/-- The settings of the log: those of the environment, then those of the command line. -/
def logSettings (world : World) (options : Options) : Log.Settings :=
  let settings := Log.Settings.initial.load world.environment
  if options.logLevel.isSome || options.trace then
    settings.configure (options.logLevel.getD "INFO") [] options.trace none
  else settings

/-- The sink of the records about a run. -/
def recordSink (world : World) (options : Options) (settings : Log.Settings) :
    Except Log.SinkIssue Log.Sink :=
  match options.records.filter (· != "") with
  | some directory => do
    return .file (← Log.FileSink.create settings world.environment world.clock (some directory)
      (some "compile"))
  | none => Log.Sink.forStream settings world.environment world.clock Progress.stream (some "compile")

/-- Runs the command with its options; the sinks are closed at the end, whatever happens. -/
def runWith (world : World) (options : Options) : Outcome :=
  let settings := logSettings world options
  match recordSink world options settings with
  | .error issue => ⟨"", "", world.files, .error (.sink issue)⟩
  | .ok sink =>
    let (p, exit) := compile world options settings ⟨"", [], [(Progress.stream, sink)], world.files⟩
    ⟨p.output, Log.console settings p.notes, p.sinks.close world.clock p.files, exit⟩

/-- Runs the command. -/
def run (world : World) : Outcome :=
  let width := lineWidth world.environment
  match Request.ofTexts world.arguments with
  | .error issue => ⟨"", complaint width issue, world.files, .ok refused⟩
  | .ok .help => ⟨help width, "", world.files, .ok 0⟩
  | .ok (.run options) => runWith world options

end GraphScript.Command
