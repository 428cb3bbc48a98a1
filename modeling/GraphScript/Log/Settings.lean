import GraphScript.Text.Case
import GraphScript.Value.Basic

namespace GraphScript.Log

inductive Level where
  | debug
  | info
  | warning
  | error
  | off
deriving DecidableEq, Repr

namespace Level

/-- The weight of a level; a message shows if it weighs at least as much as the level set. -/
def weight : Level → Nat
  | debug => 10
  | info => 20
  | warning => 30
  | error => 40
  | off => 100

def name : Level → String
  | debug => "DEBUG"
  | info => "INFO"
  | warning => "WARNING"
  | error => "ERROR"
  | off => "OFF"

/-- The level of a name in any case; an unknown name is `info`. -/
def ofName (text : String) : Level :=
  match Text.upper text with
  | "DEBUG" => debug
  | "WARNING" => warning
  | "WARN" => warning
  | "ERROR" => error
  | "OFF" => off
  | _ => info

end Level

/-- Named environment variables, in order. -/
abbrev Environment := List (String × String)

/-- Sets the entry of a key: it keeps its place if it has one. -/
def assign {α : Type} (key : String) (value : α) : List (String × α) → List (String × α)
  | [] => [(key, value)]
  | (k, v) :: rest => if k = key then (k, value) :: rest else (k, v) :: assign key value rest

structure Settings where
  level : Level
  /-- Levels of single sources. -/
  sources : List (String × Level)
  /-- Whether every lowering is logged. -/
  trace : Bool
  /-- Where record files go unless said otherwise. -/
  directory : Option String
  /-- Settings of the record streams. -/
  streams : List (String × List (String × Value))

namespace Settings

def initial : Settings :=
  ⟨.info, [], false, none, []⟩

/-- Nothing shows. -/
def silent : Settings :=
  { initial with level := .off }

/-- The name under which the level of a source is kept. -/
def sourceKey (source : String) : String :=
  String.ofList ((Text.lower source).toList.map fun c => if c = '.' ∨ c = '/' then '_' else c)

/-- The level of a source: its own, or else the common one. -/
def levelOf (settings : Settings) (source : String) : Level :=
  (settings.sources.lookup (sourceKey source)).getD settings.level

def shows (settings : Settings) (source : String) (level : Level) : Bool :=
  (settings.levelOf source).weight ≤ level.weight

/-- Sets the common level, levels of single sources, and the trace. -/
def configure (settings : Settings) (level : String) (sources : List (String × String))
    (trace : Bool) (directory : Option String) : Settings :=
  { settings with
    level := .ofName level
    sources := sources.foldl (fun acc entry => assign entry.1 (.ofName entry.2) acc) settings.sources
    trace := trace
    directory := directory.or settings.directory }

def levelPrefix : String := "UNIFORGE_LOG_"

def streamPrefix : String := "UNIFORGE_LOGGING_"

/-- Variables with the common start that are no levels of sources. -/
def reserved : List String :=
  ["UNIFORGE_LOG_LEVEL", "UNIFORGE_LOG_LOWERING", "UNIFORGE_LOG_DIR"]

/-- What follows `start` in a text that begins with it. -/
def afterStart? (start text : String) : Option String :=
  let s := start.toList
  let cs := text.toList
  if s.isPrefixOf cs then some (String.ofList (cs.drop s.length)) else none

/-- A variable read as a truth value where it is a word for one. -/
def environmentValue (text : String) : Value :=
  let word := Text.lower text
  if ["true", "1", "yes", "on"].contains word then .bool true
  else if ["false", "0", "no", "off"].contains word then .bool false
  else .text text

/-- Whether a variable switches something on. -/
def isSwitchedOn (environment : Environment) (name : String) : Bool :=
  ["1", "true", "yes"].contains (Text.lower ((environment.lookup name).getD ""))

def withSourceLevel (settings : Settings) (entry : String × String) : Settings :=
  match afterStart? levelPrefix entry.1 with
  | some source =>
    if reserved.contains entry.1 then settings
    else { settings with sources := assign (Text.lower source) (.ofName entry.2) settings.sources }
  | none => settings

/-- Sets one setting of a stream, named by the stream and the setting with an underscore between. -/
def withStreamSetting (settings : Settings) (entry : String × String) : Settings :=
  match afterStart? streamPrefix entry.1 with
  | none => settings
  | some name =>
    let cs := (Text.lower name).toList
    match cs.dropWhile (· != '_') with
    | [] => settings
    | _ :: setting =>
      let stream := String.ofList (cs.takeWhile (· != '_'))
      let known := (settings.streams.lookup stream).getD []
      let known := assign (String.ofList setting) (environmentValue entry.2) known
      { settings with streams := assign stream known settings.streams }

/-- The settings after reading the environment. -/
def load (settings : Settings) (environment : Environment) : Settings :=
  let settings :=
    match environment.lookup "UNIFORGE_LOG_LEVEL" with
    | some level => { settings with level := .ofName level }
    | none => settings
  let settings := { settings with directory := (environment.lookup "UNIFORGE_LOG_DIR").or settings.directory }
  let settings := environment.foldl withSourceLevel settings
  let settings := { settings with trace := isSwitchedOn environment "UNIFORGE_LOG_LOWERING" }
  environment.foldl withStreamSetting settings

end Settings

end GraphScript.Log
