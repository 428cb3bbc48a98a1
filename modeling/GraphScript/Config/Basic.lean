import GraphScript.Number.Shortest
import GraphScript.Text.Identifier
import GraphScript.Value.Display

namespace GraphScript

/-- How the generated code reaches services: through a context object, or as static calls. -/
inductive ServiceMode where
  | context
  | static
deriving DecidableEq, Repr

def ServiceMode.name : ServiceMode → String
  | .context => "context"
  | .static => "static"

structure Config where
  outputDir : String
  classPrefix : String
  /-- Editor pixels in one unit of the world. -/
  pixelsPerUnit : Binary64
  /-- How close a move has to come to its target. -/
  arriveEpsilon : Binary64
  /-- The longest path that a walk follows. -/
  maxTraversalDepth : Nat
  /-- How many nodes are lowered for one entity. -/
  maxEmittedNodes : Nat
  serviceMode : ServiceMode
  contextType : String
  runtimeNamespace : String
  healthField : String
  defaultHealth : Binary64
  indent : String

namespace Config

def usesContext (config : Config) : Bool :=
  config.serviceMode == .context

/-- Settings whose ranges are still to be checked. -/
structure Draft where
  outputDir : String
  classPrefix : String
  pixelsPerUnit : Binary64
  arriveEpsilon : Binary64
  maxTraversalDepth : Int
  maxEmittedNodes : Int
  serviceMode : String
  contextType : String
  runtimeNamespace : String
  healthField : String
  defaultHealth : Binary64
  indent : String

def Draft.default : Draft where
  outputDir := "Assets/Uniforge_FastTrack/Generated"
  classPrefix := "Gen_"
  pixelsPerUnit := .ofNat 100
  arriveEpsilon := .ofDecimal false 5 (-2)
  maxTraversalDepth := 128
  maxEmittedNodes := 4096
  serviceMode := "context"
  contextType := "IUniforgeContext"
  runtimeNamespace := "Uniforge.FastTrack.Runtime"
  healthField := "hp"
  defaultHealth := .ofNat 100
  indent := "    "

/-- Why settings are refused. -/
inductive Issue where
  | pixelsPerUnit (x : Binary64)
  | arriveEpsilon (x : Binary64)
  | maxTraversalDepth (n : Int)
  | maxEmittedNodes (n : Int)
  | serviceMode (mode : String)
  | indent
  | classPrefix (text : String)
  | healthField (text : String)
  | unknownKeys (keys : List String)
  | badValue (name : String) (value : Value)
  | missingFile (path : String)
  | unreadable (path reason : String)
  | notMapping (path kind : String)

def Issue.message : Issue → String
  | pixelsPerUnit x => "pixels_per_unit must be positive, got " ++ x.text
  | arriveEpsilon x => "arrive_epsilon must not be negative, got " ++ x.text
  | maxTraversalDepth n => "max_traversal_depth must be at least 1, got " ++ toString n
  | maxEmittedNodes n => "max_emitted_nodes must be at least 1, got " ++ toString n
  | serviceMode mode => "service_mode must be one of context, static, got " ++ Text.quoted mode
  | indent => "indent must be a non-empty run of spaces or tabs"
  | classPrefix text =>
    "class_prefix must start with a letter or underscore, got " ++ Text.quoted text
  | healthField text => "health_field must be an identifier, got " ++ Text.quoted text
  | unknownKeys keys => "Unknown config key(s): " ++ ", ".intercalate keys
  | badValue name value => "Invalid value for " ++ name ++ ": " ++ value.quoted
  | missingFile path => "Config file not found: " ++ path
  | unreadable path reason => "Cannot parse config " ++ path ++ ": " ++ reason
  | notMapping path kind => "Config " ++ path ++ " must be a mapping, got " ++ kind

/-- Whether the value that a message is about can be written. -/
def Issue.isWritable : Issue → Bool
  | maxTraversalDepth n => (Value.int n).isWritable
  | maxEmittedNodes n => (Value.int n).isWritable
  | badValue _ value => value.isWritable
  | _ => true

def serviceMode? : String → Option ServiceMode
  | "context" => some .context
  | "static" => some .static
  | _ => none

def isIndent (text : String) : Bool :=
  text != "" && text.toList.all fun c => c == ' ' || c == '\t'

def startsWithLetter (text : String) : Bool :=
  match text.toList with
  | c :: _ => Text.isLetter c || c == '_'
  | [] => false

namespace Draft

/-- The settings, if all are in range; the first complaint in the order of the checks otherwise. -/
def check (d : Draft) : Except Issue Config :=
  if d.pixelsPerUnit.isNegative || d.pixelsPerUnit.isZero then .error (.pixelsPerUnit d.pixelsPerUnit)
  else if d.arriveEpsilon.isNegative then .error (.arriveEpsilon d.arriveEpsilon)
  else if d.maxTraversalDepth < 1 then .error (.maxTraversalDepth d.maxTraversalDepth)
  else if d.maxEmittedNodes < 1 then .error (.maxEmittedNodes d.maxEmittedNodes)
  else
    match serviceMode? d.serviceMode with
    | none => .error (.serviceMode d.serviceMode)
    | some mode =>
      if !isIndent d.indent then .error .indent
      else if !startsWithLetter d.classPrefix then .error (.classPrefix d.classPrefix)
      else if !Text.isIdentifier d.healthField then .error (.healthField d.healthField)
      else .ok
        { outputDir := d.outputDir
          classPrefix := d.classPrefix
          pixelsPerUnit := d.pixelsPerUnit
          arriveEpsilon := d.arriveEpsilon
          maxTraversalDepth := d.maxTraversalDepth.toNat
          maxEmittedNodes := d.maxEmittedNodes.toNat
          serviceMode := mode
          contextType := d.contextType
          runtimeNamespace := d.runtimeNamespace
          healthField := d.healthField
          defaultHealth := d.defaultHealth
          indent := d.indent }

end Draft

end Config

end GraphScript
