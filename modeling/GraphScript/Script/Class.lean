import GraphScript.Lowering.Action
import GraphScript.Lowering.Field
import GraphScript.Script.Event

namespace GraphScript

/-- Whether an action plays an animation. -/
def playsAnimation (action : Option String) : Bool :=
  action.bind ActionKind.ofName? == some .playAnimation

/-- The parameters of all actions that play an animation, in events and in modules. -/
def Entity.animationParams (entity : Entity) : List Params :=
  (entity.events.filter fun e => playsAnimation e.action).map Event.params ++
    entity.modules.flatMap fun m =>
      (m.nodes.filter fun n => n.role == .action && playsAnimation n.action).map Node.params

/-- The names of the animations in order, each once. -/
def Entity.animations (entity : Entity) : Lowered (List String) := do
  let names ← entity.animationParams.mapM fun params => do
    let p ← readParams PlayAnimationParams.form params
    return p.animationName
  return Facts.distinct (names.filter (· != ""))

/-- The source generated for an entity. -/
structure Artifact where
  entityId : String
  className : String
  fileName : String
  source : String
  animations : List String
deriving DecidableEq, Repr

/-- The namespaces that every file imports. -/
def baseNamespaces : List String :=
  ["UnityEngine", "System.Collections"]

/-- The namespaces that a file imports besides. -/
def extraNamespaces (config : Config) (facts : Facts) : List String :=
  let context := if config.usesContext then [config.runtimeNamespace] else []
  (Facts.distinct (facts.namespaces ++ context)).filter fun name => !baseNamespaces.contains name

namespace Writer

/-- Lines one after another. -/
def addLines (w : Writer) (texts : List String) : Writer :=
  texts.foldl line w

/-- A method under a blank line. -/
def method (w : Writer) (signature : String) (body : Writer → Writer) : Writer :=
  (body ((w.line "").openBlock (some signature))).close

end Writer

namespace Context

/-- Whether the class declares a health field that is no variable. -/
def needsHealthField (ctx : Context) (facts : Facts) : Bool :=
  facts.usesHealth && !ctx.declaresHealth

def writeHeader (ctx : Context) (facts : Facts) (w : Writer) : Writer :=
  let entity := ctx.entity
  let label := Text.flatten (if entity.name = "" then entity.id else entity.name)
  let w := w.line "// <auto-generated>"
  let w := w.comment
    ("Generated by uniforge from entity '" ++ label ++ "' (" ++ entity.id ++ "). Changes will be overwritten.")
  let w := w.line "// </auto-generated>"
  let w := w.addLines ((baseNamespaces ++ extraNamespaces ctx.config facts).map fun name =>
    "using " ++ name ++ ";")
  w.line ""

/-- The fields, with the declarations of variables as they were lowered. -/
def writeFields (ctx : Context) (facts : Facts) (declarations : List Piece)
    (routines : List Routine) (w : Writer) : Writer :=
  let config := ctx.config
  let w := w.line "private Transform _transform;"
  let w := w.line "private Animator _animator;"
  let w :=
    if config.usesContext then
      w.line ("private " ++ config.contextType ++ " " ++ ServiceCall.contextField ++ ";")
    else w
  let w := if !ctx.entity.vars.isEmpty || ctx.needsHealthField facts then w.line "" else w
  let w := w.run declarations
  let w :=
    if ctx.needsHealthField facts then
      w.line ("public float " ++ config.healthField ++ " = " ++ CSharp.floatLiteral config.defaultHealth ++ ";")
    else w
  if routines.isEmpty then w
  else (w.line "").addLines (routines.map fun r => "private bool " ++ r.flag ++ ";")

def writeAwake (w : Writer) : Writer :=
  w.method "void Awake()" fun w =>
    w.addLines ["_transform = transform;", "_animator = GetComponent<Animator>();"]

def writeInitialize (config : Config) (w : Writer) : Writer :=
  if config.usesContext then
    w.method ("public void Initialize(" ++ config.contextType ++ " context)") fun w =>
      w.line (ServiceCall.contextField ++ " = context;")
  else w

def writeStart (body : Writer) (w : Writer) : Writer :=
  if body.isEmpty then w
  else w.method (if body.suspends then "IEnumerator Start()" else "void Start()") fun w => w.extend body

def writeHook (b : Bodies) (w : Writer) (hook : Hook) : Writer :=
  if (b.hook hook).isEmpty then w
  else w.method hook.signature fun w => w.extend (b.hook hook)

/-- How damage changes the health field, if it can. -/
def damageAmount? : Option FieldType → Option String
  | some .int => some "Mathf.RoundToInt(amount)"
  | some .float => some "amount"
  | _ => none

/-- Whether the class has a health field. -/
def hasHealth (ctx : Context) (facts : Facts) : Bool :=
  facts.usesHealth || ctx.declaresHealth

/-- The method through which an attack reaches the entity. -/
def writeDamageReceiver (ctx : Context) (facts : Facts) (w : Writer) : Writer :=
  if ctx.hasHealth facts then
    match damageAmount? (ctx.typeOf ctx.config.healthField) with
    | some amount =>
      w.method "public void OnTakeDamage(float amount)" fun w =>
        w.line (ctx.config.healthField ++ " -= " ++ amount ++ ";")
    | none => w
  else w

/-- Notes that the health field has a type that damage cannot change. -/
def noteDamage (ctx : Context) (facts : Facts) : Lowered Unit :=
  match ctx.typeOf ctx.config.healthField with
  | some type =>
    if ctx.hasHealth facts && (damageAmount? (some type)).isNone then
      Lowered.note "assembler" .debug
        ("Health field " ++ ctx.config.healthField ++ " is " ++ type.name ++ ", no damage receiver")
    else pure ()
  | none => pure ()

def writeRoutine (w : Writer) (r : Routine) : Writer :=
  w.method ("IEnumerator " ++ r.name ++ "()") fun w =>
    ((w.line (r.flag ++ " = true;")).extend r.body).line (r.flag ++ " = false;")

/-- The comments about events whose trigger has no method. -/
def writeUnhandled (unhandled : List (String × Nat)) (w : Writer) : Writer :=
  if unhandled.isEmpty then w
  else
    unhandled.foldl (fun w (trigger, count) =>
      let name := if trigger = "" then "(none)" else trigger
      w.comment ("Trigger '" ++ name ++ "' has no lifecycle hook; " ++ toString count ++
        " event(s) not generated")) (w.line "")

def className (ctx : Context) : String :=
  CSharp.className ctx.config.classPrefix ctx.entity.id

/-- The whole file. -/
def writeClass (ctx : Context) (facts : Facts) (declarations : List Piece) (b : Bodies) : Writer :=
  let w := ctx.writeHeader facts (.new 0)
  let w := w.openBlock (some ("public class " ++ ctx.className ++ " : MonoBehaviour"))
  let w := ctx.writeFields facts declarations b.routines w
  let w := writeInitialize ctx.config (writeAwake w)
  let w := writeStart b.start w
  let w := Hook.all.foldl (writeHook b) w
  let w := ctx.writeDamageReceiver facts w
  let w := b.routines.foldl writeRoutine w
  (writeUnhandled b.unhandled w).close

/-- The artifact of an entity with logic. -/
def assemble (ctx : Context) : Lowered Artifact := do
  let (effects, b) ← ctx.bodies.observe
  let facts := Facts.none.after effects
  let (declarations, _) ← (declareVariables ctx.entity).capture
  ctx.noteDamage facts
  let source := (ctx.writeClass facts declarations b).render ctx.config.indent ++ "\n"
  Lowered.note "assembler" .info ("Generated " ++ ctx.className ++ " for entity " ++ ctx.entity.id)
  let animations ← ctx.entity.animations
  return ⟨ctx.entity.id, ctx.className, ctx.className ++ ".cs", source, animations⟩

end Context

/-- The artifact of an entity, if it has logic. -/
def assemble (config : Config) (entity : Entity) : Lowered (Option Artifact) :=
  if entity.hasLogic then do return some (← (Context.of entity config).assemble)
  else do
    Lowered.note "assembler" .debug ("Entity " ++ entity.id ++ " has no logic, skipped")
    return none

end GraphScript
