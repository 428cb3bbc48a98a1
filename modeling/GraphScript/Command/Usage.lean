import GraphScript.Command.Options
import GraphScript.Log.Settings
import GraphScript.Number.Numeral
import GraphScript.Text.Wrap

namespace GraphScript.Command

/-- The name of the command. -/
def name : String := "uniforge-compile"

namespace Flag

/-- What an option is for. -/
def purpose : Flag → String
  | help => "show this help message and exit"
  | out => "Output folder (default: output_dir from config)"
  | config => "YAML config file"
  | entity => "Only compile this entity (repeatable)"
  | manifest => "Write a JSON manifest of generated classes to this path"
  | dryRun => "Print generated source to stdout instead of writing files"
  | logLevel => "Log level (default: INFO, or UNIFORGE_LOG_LEVEL)"
  | trace => "Log every action/condition lowering"
  | records => "Write structured compiler records (JSONL) to this folder"

/-- A spelling with the place of its value. -/
def withPlaceholder (flag : Flag) (spelling : String) : String :=
  match flag.placeholder? with
  | some value => spelling ++ " " ++ value
  | none => spelling

/-- An option in the line that shows how the command is called. -/
def brief (flag : Flag) : String :=
  "[" ++ flag.withPlaceholder (flag.names.headD "") ++ "]"

/-- An option in the list of all options. -/
def listed (flag : Flag) : String :=
  ", ".intercalate (flag.names.map flag.withPlaceholder)

end Flag

/-- The width of lines for a terminal, which leaves two of its columns free. A terminal of unknown
width has eighty. -/
def lineWidth (environment : Log.Environment) : Nat :=
  match (environment.lookup "COLUMNS").bind Numeral.settingInt? with
  | some (.ofNat (n + 1)) => n + 1 - 2
  | _ => 80 - 2

/-- Lines as a text. -/
def linesText (lines : List String) : String :=
  String.join (lines.map (· ++ "\n"))

/-- The lines that show how the command is called. The options follow its name if that leaves them
a quarter of the line; the payload has lines of its own unless all fits on one. -/
def usageLines (width : Nat) : List String :=
  let lead := "usage: "
  let options := Flag.all.map Flag.brief
  let whole := lead ++ " ".intercalate (name :: options ++ ["payload"])
  let start := lead.length + name.length
  if whole.length ≤ width then [whole]
  else
    let rows (indent : Nat) := Text.rows width indent options ++ Text.rows width indent ["payload"]
    let indented (indent : Nat) (lines : List String) := lines.map (Text.spaces indent ++ ·)
    if 4 * start ≤ 3 * width then
      match rows (start + 1) with
      | first :: rest => (lead ++ name ++ " " ++ first) :: indented (start + 1) rest
      | [] => [lead ++ name]
    else (lead ++ name) :: indented lead.length (rows lead.length)

/-- The lines of a list entry: what is explained, and the explanation beside or below it. -/
def entryLines (width : Nat) (entry : String × String) : List String :=
  let column := min 24 (max (width - 20) 4)
  let text := Text.fill (max (width - column) 11) entry.2
  let indented (lines : List String) := lines.map (Text.spaces column ++ ·)
  if entry.1.length ≤ column - 4 then
    match text with
    | first :: rest => ("  " ++ Text.padded (column - 2) entry.1 ++ first) :: indented rest
    | [] => ["  " ++ entry.1]
  else ("  " ++ entry.1) :: indented text

/-- The lines about the command and its options. -/
def helpLines (width : Nat) : List String :=
  ["",
   "Compile a Uniforge editor payload into Unity C# components",
   "",
   "positional arguments:"] ++
  entryLines width ("payload", "Payload file (JSON or YAML), or '-' for stdin") ++
  ["", "options:"] ++
  Flag.all.flatMap (fun flag => entryLines width (flag.listed, flag.purpose)) ++
  ["",
   "Examples:",
   "  # Compile every entity into the default folder",
   "  uniforge-compile project.json",
   "",
   "  # Read the payload from stdin",
   "  cat project.json | uniforge-compile -",
   "",
   "  # Use the legacy static runtime managers",
   "  UNIFORGE_SERVICE_MODE=static uniforge-compile project.json",
   "",
   "  # Write a manifest for the component-attachment step",
   "  uniforge-compile project.json --manifest Generated/uniforge_manifest.json",
   "        "]

/-- How the command is called. -/
def usage (width : Nat) : String :=
  linesText (usageLines width)

/-- All about the command. -/
def help (width : Nat) : String :=
  usage width ++ linesText (helpLines width)

/-- What is said about a command line that is refused. -/
def complaint (width : Nat) (issue : UsageIssue) : String :=
  usage width ++ name ++ ": error: " ++ issue.message ++ "\n"

end GraphScript.Command
