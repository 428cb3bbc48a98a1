import GraphScript.Config.Basic
import GraphScript.Fault
import GraphScript.Log.Note
import GraphScript.Number.Numeral

namespace GraphScript.Config

/-- Why settings could not be read. -/
inductive Failure where
  | issue (issue : Issue)
  | fault (fault : Fault)
  /-- A key that is no text stands among the unknown ones. -/
  | keyKind (position : Nat) (kind : String)

/-- Refuses settings; a complaint about a value that cannot be written is a fault. -/
def refuse (issue : Issue) : Failure :=
  if issue.isWritable then .issue issue else .fault .integerTooLong

/-- Reads a value as a text; null, truth values and what cannot be written are none. -/
def textSetting? : Value → Option String
  | .bool _ => none
  | .null => none
  | value => if value.isWritable then some value.display else none

/-- Reads a value as an integer. -/
def intSetting? : Value → Option Int
  | .int n => some n
  | .float x => if x.isInteger then x.truncate? else none
  | .text s => Numeral.settingInt? s
  | _ => none

/-- Reads a value as a number; an integer may be too large for one. -/
def numberSetting? : Value → Except Fault (Option Binary64)
  | .int n =>
    match Binary64.ofInt? n with
    | some x => .ok (some x)
    | none => .error .integerTooLarge
  | .float x => .ok (some x)
  | .text s => .ok (Numeral.setting? s)
  | _ => .ok none

/-- A setting: its name, how it is read into a draft, and how it is given. -/
structure Setting where
  name : String
  set : Draft → Value → Except Fault (Option Draft)
  give : Config → Value

def textSetting (name : String) (put : Draft → String → Draft) (give : Config → String) : Setting :=
  ⟨name, fun d v => .ok ((textSetting? v).map (put d)), fun c => .text (give c)⟩

def intSetting (name : String) (put : Draft → Int → Draft) (give : Config → Nat) : Setting :=
  ⟨name, fun d v => .ok ((intSetting? v).map (put d)), fun c => .int (give c)⟩

def numberSetting (name : String) (put : Draft → Binary64 → Draft) (give : Config → Binary64) :
    Setting :=
  ⟨name, fun d v => (numberSetting? v).map (Option.map (put d)), fun c => .float (give c)⟩

/-- All settings, in order. -/
def settings : List Setting :=
  [textSetting "output_dir" (fun d x => { d with outputDir := x }) (·.outputDir),
   textSetting "class_prefix" (fun d x => { d with classPrefix := x }) (·.classPrefix),
   numberSetting "pixels_per_unit" (fun d x => { d with pixelsPerUnit := x }) (·.pixelsPerUnit),
   numberSetting "arrive_epsilon" (fun d x => { d with arriveEpsilon := x }) (·.arriveEpsilon),
   intSetting "max_traversal_depth" (fun d x => { d with maxTraversalDepth := x })
    (·.maxTraversalDepth),
   intSetting "max_emitted_nodes" (fun d x => { d with maxEmittedNodes := x }) (·.maxEmittedNodes),
   textSetting "service_mode" (fun d x => { d with serviceMode := x })
    (·.serviceMode.name),
   textSetting "context_type" (fun d x => { d with contextType := x }) (·.contextType),
   textSetting "runtime_namespace" (fun d x => { d with runtimeNamespace := x })
    (·.runtimeNamespace),
   textSetting "health_field" (fun d x => { d with healthField := x }) (·.healthField),
   numberSetting "default_health" (fun d x => { d with defaultHealth := x }) (·.defaultHealth),
   textSetting "indent" (fun d x => { d with indent := x }) (·.indent)]

/-- The settings with their names. -/
def view (config : Config) : Params :=
  settings.map fun s => (s.name, s.give config)

/-- The setting that a key names. -/
def setting? : Value → Option Setting
  | .text name => settings.find? fun s => s.name == name
  | _ => none

/-- Sets one entry after another. -/
def fill (d : Draft) : List (Value × Value) → Except Failure Draft
  | [] => .ok d
  | (key, value) :: rest =>
    match setting? key with
    | none => fill d rest
    | some s =>
      match s.set d value with
      | .error f => .error (.fault f)
      | .ok none => .error (refuse (.badValue s.name value))
      | .ok (some d) => fill d rest

/-- The position and the kind of the first key that is no text. -/
def firstKeyKind (position : Nat) : List Value → Option (Nat × String)
  | [] => none
  | .text _ :: rest => firstKeyKind (position + 1) rest
  | key :: _ => some (position, key.kind)

/-- The rank of a number among infinite and finite ones, and its ratio. Truth values are numbers. -/
def magnitude? : Value → Option (Int × Int × Nat)
  | .bool b => some (0, if b then 1 else 0, 1)
  | .int n => some (0, n, 1)
  | .float (.finite negative mantissa exponent _) =>
    let (n, d) := Binary64.ratio mantissa exponent
    some (0, Binary64.withSign negative n, d)
  | .float (.infinite negative) => some (if negative then -1 else 1, 0, 1)
  | _ => none

/-- Whether a key comes no later than another; numbers go by their values. -/
def keyLE (a b : Value) : Bool :=
  match magnitude? a, magnitude? b with
  | some (r, n, d), some (s, m, e) => r < s || (r == s && n * e ≤ m * d)
  | _, _ => true

def sortedKeys (keys : List Value) : List Value :=
  keys.mergeSort keyLE

def keyText? : Value → Option String
  | .text s => some s
  | _ => none

/-- Reads settings from a mapping. Unknown keys are refused first, then values in the order of the
mapping, then ranges. -/
def ofEntries (entries : List (Value × Value)) : Except Failure Config := do
  let unknown := (entries.map Prod.fst).filter fun key => (setting? key).isNone
  let names := (unknown.filterMap keyText?).mergeSort fun a b => decide (a ≤ b)
  if !unknown.isEmpty then
    match firstKeyKind 0 (sortedKeys unknown) with
    | some (position, kind) => .error (.keyKind position kind)
    | none => .error (.issue (.unknownKeys names))
  else
    let draft ← fill .default entries
    match draft.check with
    | .ok config => .ok config
    | .error issue => .error (refuse issue)

def variablePrefix : String := "UNIFORGE_"

/-- The settings that the environment gives, in the order of the settings. -/
def overrides (environment : Log.Environment) : List (String × String) :=
  settings.filterMap fun s =>
    (environment.lookup (variablePrefix ++ Text.upper s.name)).map fun value => (s.name, value)

/-- A note of the settings' own source. -/
def note (text : String) : Log.Note :=
  .message "config" .debug text

/-- Reads settings from a mapping, with the environment on top. -/
def layered (entries : List (Value × Value)) (environment : Log.Environment) :
    List Log.Note × Except Failure Config :=
  let found := overrides environment
  let names := (found.map Prod.fst).mergeSort fun a b => decide (a ≤ b)
  let notes := if found.isEmpty then [] else [note ("Environment overrides: " ++ ", ".intercalate names)]
  let entries := found.foldl (fun acc entry => Value.put (.text entry.1) (.text entry.2) acc) entries
  (notes, ofEntries entries)

end GraphScript.Config
