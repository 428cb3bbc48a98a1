import GraphScript.Command.Run

namespace GraphScript.Command

/-- The parts of the program that log under a name of their own. -/
def sourceNames : List String :=
  ["actions", "assembler", "cli", "conditions", "config", "importer", "params", "traversal",
   "variables"]

/-- The variables that a run may read. -/
def variableNames : List String :=
  ["HOME", "COLUMNS", "XDG_DATA_HOME", "UNIFORGE_SKIP_SCHEMA_VALIDATION",
   Log.Settings.streamPrefix ++ "COMPILER_ENABLED", Log.Settings.streamPrefix ++ "COMPILER_DIR"] ++
    Log.Settings.reserved ++
    sourceNames.map (fun name => Log.Settings.levelPrefix ++ Text.upper name) ++
    Config.settings.map fun s => Config.variablePrefix ++ Text.upper s.name

def readEnvironment : IO Log.Environment :=
  variableNames.filterMapM fun name => do
    return (← IO.getEnv name).map fun value => (name, value)

/-- The time at which a fresh file is made. -/
def readClock : IO Log.Clock := do
  let (_, path) ← IO.FS.createTempFile
  let made := (← path.metadata).modified
  IO.FS.removeFile path
  let ticks := made.sec.toNat * Nat.pow 10 9 + made.nsec.toNat
  return ⟨.ofDecimal false ticks (-9), toString made.sec⟩

partial def readAll (input : IO.FS.Stream) (text : String) : IO String := do
  let line ← input.getLine
  if line.isEmpty then return text else readAll input (text ++ line)

/-- The place of a path as a path from the root. -/
def placeText (place : List String) : String :=
  "/" ++ "/".intercalate place

/-- The places on the way to a place, with the place itself and without the root. -/
def steps (place : List String) : List (List String) :=
  (List.range place.length).map fun n => place.take (n + 1)

/-- Takes over from the disk what is at a place. -/
def inspectPlace (files : Files) (place : List String) : IO Files := do
  let path := (← IO.currentDir) / placeText place
  if ← path.isDir then return files.set place .directory
  else if ← path.pathExists then
    return files.set place (.file (← IO.FS.readBinFile path).toList)
  else return files

/-- Takes over what is at a path and at the places on the way to it. -/
def inspectPath (files : Files) (path : Files.Path) : IO Files := do
  let base := if path.start = .relative then files.working else []
  (steps (base ++ path.parts)).foldlM inspectPlace files

/-- The paths that a run with these options may look at. -/
def knownPaths (world : World) (options : Options) : List Files.Path :=
  let settings := logSettings world options
  let records := match recordSink world options settings with
    | .ok (.file sink) => [sink.pathFor Progress.stream]
    | _ => []
  [.ofText options.payload] ++ (options.config.join.map Files.Path.ofText).toList ++
    (options.out.map Files.Path.ofText).toList ++ (options.manifest.map Files.Path.ofText).toList ++
    records

/-- Writes what a run changed. -/
def writeChanges (before after : Files) : IO Unit :=
  after.entries.forM fun (place, entry) => do
    if before.at? place ≠ some entry then
      match entry with
      | .directory => IO.FS.createDirAll (placeText place)
      | .file bytes => IO.FS.writeBinFile (placeText place) (ByteArray.mk bytes.toArray)

end GraphScript.Command

open GraphScript GraphScript.Command

def main (arguments : List String) : IO UInt32 := do
  let working := (Files.Path.ofText (← IO.currentDir).toString).parts
  let world : World :=
    { arguments := arguments
      environment := ← readEnvironment
      files := ⟨working, (steps working).map fun place => (place, .directory)⟩
      input := ""
      clock := ← readClock }
  let world ← match Request.ofTexts arguments with
    | .ok (.run options) => do
      let files ← (knownPaths world options).foldlM inspectPath world.files
      let input ← if options.payload = "-" then readAll (← IO.getStdin) "" else pure ""
      pure { world with files := files, input := input }
    | _ => pure world
  let outcome := Command.run world
  writeChanges world.files outcome.files
  IO.print outcome.output
  IO.eprint outcome.errors
  match outcome.exit with
  | .ok code => return code.toUInt32
  | .error failure =>
    IO.eprintln failure.message
    return 1
