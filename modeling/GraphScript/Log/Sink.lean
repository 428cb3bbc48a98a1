import GraphScript.Files.Basic
import GraphScript.Json.Writer
import GraphScript.Log.Settings
import GraphScript.Value.Display

namespace GraphScript.Log

/-- The time that records get, and the name of a session that has none. -/
structure Clock where
  now : Binary64
  stamp : String

/-- Why there is no sink. -/
inductive SinkIssue where
  /-- The home directory of a user is not known. -/
  | unknownHome
  /-- The directory is no text. -/
  | directoryKind (kind : String)
deriving DecidableEq, Repr

def SinkIssue.message : SinkIssue → String
  | unknownHome => "Could not determine home directory."
  | directoryKind kind => "expected str, bytes or os.PathLike object, not " ++ kind

/-- The home directory, without slashes at its end; one that starts with a tilde is not known. -/
def homePath (environment : Environment) : Except SinkIssue Files.Path :=
  let home := (environment.lookup "HOME").getD ""
  if home.toList.head? = some '~' then .error .unknownHome
  else
    let trimmed := String.ofList (home.toList.reverse.dropWhile (· == '/')).reverse
    .ok (.ofText (if trimmed = "" then "/" else trimmed))

/-- A path with the home directory for a tilde at its start. -/
def expandHome (environment : Environment) (path : Files.Path) : Except SinkIssue Files.Path :=
  match path.start, path.parts with
  | .relative, first :: rest =>
    if first = "~" then (homePath environment).map (·.join ⟨.relative, rest⟩)
    else if first.toList.head? = some '~' then .error .unknownHome
    else .ok path
  | _, _ => .ok path

/-- The directory of the user's data; the home directory has to be known even where another one is
given. -/
def dataPath (environment : Environment) : Except SinkIssue Files.Path := do
  let home ← homePath environment
  match environment.lookup "XDG_DATA_HOME" with
  | some text => return .ofText text
  | none => return home.join (.ofText ".local/share")

/-- Where record files go: the directory of the settings, that of the environment, or the data of
the user. An empty text is none. -/
def recordDirectory (settings : Settings) (environment : Environment) :
    Except SinkIssue Files.Path :=
  let given := [settings.directory, environment.lookup "UNIFORGE_LOG_DIR"].filterMap id
  match given.find? (· != "") with
  | some text => expandHome environment (.ofText text)
  | none => (dataPath environment).map (·.join (.ofText "uniforge/logs"))

/-- A stream that was begun. -/
structure Stream where
  /-- The number of records of each type. -/
  counts : List (String × Nat)
  /-- The lines that are not in the file yet. -/
  waiting : String

namespace Stream

/-- How many bytes are too many to wait. -/
def waitingLimit : Nat := 8192

/-- Takes a line, and gives what leaves for the file: all that waits, once it is too much. -/
def push (s : Stream) (line : String) : Stream × String :=
  let waiting := s.waiting ++ line
  if waiting.utf8ByteSize < waitingLimit then ({ s with waiting := waiting }, "")
  else ({ s with waiting := "" }, waiting)

end Stream

/-- A sink that writes each stream to a file of its own. -/
structure FileSink where
  directory : Files.Path
  session : String
  /-- The streams that were begun. -/
  begun : List (String × Stream)

namespace FileSink

/-- A file sink; an empty directory or session stands for the usual one. -/
def create (settings : Settings) (environment : Environment) (clock : Clock)
    (directory session : Option String) : Except SinkIssue FileSink := do
  let session := (session.filter (· != "")).getD clock.stamp
  match directory.filter (· != "") with
  | some text => return ⟨.ofText text, session, []⟩
  | none => return ⟨← recordDirectory settings environment, session, []⟩

def pathFor (sink : FileSink) (stream : String) : Files.Path :=
  sink.directory.join (.ofText (sink.session ++ "_" ++ stream ++ ".jsonl"))

/-- A record as a line. -/
def line (record : Params) : String :=
  Json.line (.record record) ++ "\n"

def header (sink : FileSink) (clock : Clock) (stream : String) : Params :=
  [("type", .text "header"), ("stream", .text stream), ("session_name", .text sink.session),
   ("start_time", .float clock.now)]

def footer (clock : Clock) (stream : String) (counts : List (String × Nat)) : Params :=
  [("type", .text "footer"), ("stream", .text stream), ("end_time", .float clock.now),
   ("counts", .record (counts.map fun entry => (entry.1, .int entry.2)))]

/-- The record with the time in front, unless it has one. -/
def timed (clock : Clock) (record : Params) : Params :=
  if (record.lookup "wall_time").isSome then record
  else ("wall_time", .float clock.now) :: record

/-- The type under which a record is counted. -/
def typeOf (record : Params) : String :=
  ((record.lookup "type").map Value.display).getD "record"

/-- Counts one more of a type. -/
def count (type : String) (counts : List (String × Nat)) : List (String × Nat) :=
  assign type ((counts.lookup type).getD 0 + 1) counts

/-- Begins a stream, unless it was begun: the directory and the file are made, and the header
waits. -/
def begin (sink : FileSink) (clock : Clock) (stream : String) (files : Files) :
    (FileSink × Files) × Except Files.Failure Unit :=
  if (sink.begun.lookup stream).isSome then ((sink, files), .ok ())
  else
    match files.ensureDirectories sink.directory with
    | (files, .error failure) => ((sink, files), .error failure)
    | (files, .ok ()) =>
      match files.appendText (sink.pathFor stream) "" with
      | (files, .error failure) => ((sink, files), .error failure)
      | (files, .ok ()) =>
        let opened : Stream := ⟨[], line (sink.header clock stream)⟩
        (({ sink with begun := assign stream opened sink.begun }, files), .ok ())

/-- A stream with one more record, and what leaves for the file. -/
def added (clock : Clock) (record : Params) (s : Stream) : Stream × String :=
  { s with counts := count (typeOf record) s.counts }.push (line (timed clock record))

/-- Takes a record for its stream. -/
def emit (sink : FileSink) (clock : Clock) (stream : String) (record : Params) (files : Files) :
    (FileSink × Files) × Except Files.Failure Unit :=
  match sink.begin clock stream files with
  | (state, .error failure) => (state, .error failure)
  | ((sink, files), .ok ()) =>
    let known := (sink.begun.lookup stream).getD ⟨[], ""⟩
    let (s, out) := added clock record known
    let files := if out = "" then files else (files.appendText (sink.pathFor stream) out).1
    (({ sink with begun := assign stream s sink.begun }, files), .ok ())

/-- Writes what waits in the streams that were begun, each with its end. -/
def writeStreams (sink : FileSink) (ending : String → Stream → String) :
    List (String × Stream) → Files → Files
  | [], files => files
  | (stream, s) :: rest, files =>
    sink.writeStreams ending rest
      (files.appendText (sink.pathFor stream) (s.waiting ++ ending stream s)).1

/-- Ends every stream that was begun with a footer. -/
def close (sink : FileSink) (clock : Clock) (files : Files) : FileSink × Files :=
  ({ sink with begun := [] },
   sink.writeStreams (fun stream s => line (footer clock stream s.counts)) sink.begun files)

/-- Leaves every stream that was begun without an end. -/
def abandon (sink : FileSink) (files : Files) : Files :=
  sink.writeStreams (fun _ _ => "") sink.begun files

end FileSink

/-- Where the records of a stream go. -/
inductive Sink where
  | file (sink : FileSink)
  /-- Records are dropped. -/
  | discard
  /-- Records are kept. -/
  | memory (records : List Params)

namespace Sink

def emit (clock : Clock) (stream : String) (record : Params) (files : Files) :
    Sink → (Sink × Files) × Except Files.Failure Unit
  | file sink =>
    let ((sink, files), result) := sink.emit clock stream record files
    ((file sink, files), result)
  | discard => ((discard, files), .ok ())
  | memory records => ((memory (records ++ [record]), files), .ok ())

def close (clock : Clock) (files : Files) : Sink → Files
  | file sink => (sink.close clock files).2
  | _ => files

/-- What a sink that nothing will be sent to any more leaves in its files. -/
def abandon (files : Files) : Sink → Files
  | file sink => sink.abandon files
  | _ => files

/-- The sink that the settings give a stream: a file sink if its records are enabled. -/
def forStream (settings : Settings) (environment : Environment) (clock : Clock) (stream : String)
    (session : Option String) : Except SinkIssue Sink := do
  let given := (settings.streams.lookup (Text.lower stream)).getD []
  if ((given.lookup "enabled").map Value.isGiven).getD false then
    match (given.lookup "dir").filter Value.isGiven with
    | none => return file (← FileSink.create settings environment clock none session)
    | some (.text text) => return file (← FileSink.create settings environment clock (some text) session)
    | some other => .error (.directoryKind other.kind)
  else return discard

end Sink

/-- The sinks of the streams, in the order of their first registration. -/
abbrev Sinks := List (String × Sink)

namespace Sinks

/-- Routes a stream to a sink, in place of an earlier one, which is abandoned. -/
def register (stream : String) (sink : Sink) (sinks : Sinks) (files : Files) : Sinks × Files :=
  (assign stream sink sinks, ((sinks.lookup stream).map (Sink.abandon files)).getD files)

/-- Sends a record to the sink of its stream, and says whether there is one. -/
def emit (clock : Clock) (stream : String) (record : Params) (sinks : Sinks) (files : Files) :
    (Sinks × Files) × Except Files.Failure Bool :=
  match sinks.lookup stream with
  | none => ((sinks, files), .ok false)
  | some sink =>
    let ((sink, files), result) := sink.emit clock stream record files
    ((assign stream sink sinks, files), result.map fun _ => true)

/-- Closes every sink. -/
def close (clock : Clock) (sinks : Sinks) (files : Files) : Files :=
  sinks.foldl (fun files entry => entry.2.close clock files) files

end Sinks

end GraphScript.Log
