import GraphScript.Kind
import GraphScript.Lowering.Operand
import GraphScript.Params.Action

namespace GraphScript

/-- Stops unless every parameter that is read as a text can be written. -/
def requireWritable {σ : Type} (form : Form σ σ) (data : Params) : Lowered Unit :=
  if form.isWritable data then pure () else .ofExcept (.error .integerTooLong)

/-- Drops what does not fit, round by round, and notes it; each round first reads the texts. When the
rounds are used up, nothing is kept. -/
def settleNoting {σ : Type} (form : Form σ σ) : Nat → Params → Lowered Params
  | 0, _ => do
    Lowered.note "params" .debug form.defaultsMessage
    return []
  | rounds + 1, data => do
    requireWritable form data
    match malformed form.fields data with
    | [] => return data
    | bad =>
      bad.forM fun d => Lowered.noteAbout d.value "params" .debug (form.dropMessage d)
      settleNoting form rounds (without bad data)

/-- Reads typed parameters, noting what is dropped. -/
def readParams {σ : Type} (form : Form σ σ) (raw : Params) : Lowered σ := do
  let data ← settleNoting form ((Form.given raw).length + 1) (Form.given raw)
  return form.build data

/-- A statement of one line. -/
def statement (text : String) : Lowered Unit :=
  .line (text ++ ";")

/-- How a module is put in the place of a call; outside a walk there is no way to do so. -/
abbrev Inline := Option (String → Lowered Unit)

namespace Context

/-- A literal for a length in pixels. -/
def lengthLiteral (ctx : Context) (pixels : Binary64) : String :=
  CSharp.floatLiteral (ctx.world pixels)

/-- A position in pixels as a vector of the world. -/
def positionVector (ctx : Context) (x y : Binary64) : String :=
  "new Vector3(" ++ ctx.lengthLiteral x ++ ", " ++ CSharp.floatLiteral (ctx.world y).neg ++ ", 0)"

/-- Notes that an action lacks what it needs, in the log and in the code. -/
def incomplete (ctx : Context) (note comment : String) : Lowered Unit := do
  Lowered.note "actions" .warning (note ++ " on entity " ++ ctx.entity.id)
  Lowered.comment comment

def lowerMove (ctx : Context) (p : MoveParams) : Lowered Unit :=
  let direction :=
    "new Vector3(" ++ CSharp.floatLiteral p.direction.x ++ ", " ++
      CSharp.floatLiteral p.direction.y.neg ++ ", 0)"
  statement ("_transform.Translate(" ++ direction ++ ".normalized * " ++ ctx.lengthLiteral p.speed ++
    " * Time.deltaTime)")

def lowerChaseTarget (ctx : Context) (p : ChaseTargetParams) : Lowered Unit := do
  Lowered.comment ("ChaseTarget: " ++ p.targetId)
  Lowered.block none do
    statement ("var target = GameObject.Find(" ++ CSharp.quote p.targetId ++ ")")
    Lowered.block (some "if (target != null)") do
      statement "Vector3 dir = (target.transform.position - _transform.position).normalized"
      statement ("_transform.Translate(dir * " ++ ctx.lengthLiteral p.speed ++ " * Time.deltaTime)")

def lowerMoveToward (ctx : Context) (p : MoveTowardParams) : Lowered Unit := do
  let epsilon := CSharp.floatLiteral ctx.config.arriveEpsilon
  Lowered.comment ("MoveToward: (" ++ p.x.briefText ++ ", " ++ p.y.briefText ++ ")")
  Lowered.block none do
    statement ("Vector3 targetPos = " ++ ctx.positionVector p.x p.y)
    statement "Vector3 direction = (targetPos - _transform.position).normalized"
    Lowered.block (some ("if (Vector3.Distance(_transform.position, targetPos) > " ++ epsilon ++ ")")) do
      statement ("_transform.Translate(direction * " ++ ctx.lengthLiteral p.speed ++ " * Time.deltaTime)")

/-- The operator of an arithmetic operation. -/
def arithmetic? : String → Option String
  | "Add" => some "+"
  | "Sub" => some "-"
  | "Multiply" => some "*"
  | _ => none

/-- A division that gives the zero of the type when the divisor is zero. -/
def lowerDivide (target first second zero : String) : Lowered Unit := do
  match ← Lowered.ofExcept (CSharp.constantValue second) with
  | some x =>
    if x.isZero then Lowered.line (target ++ " = " ++ zero ++ ";  // divide by zero")
    else statement (target ++ " = " ++ second ++ " != 0 ? " ++ first ++ " / " ++ second ++ " : " ++ zero)
  | none =>
    statement (target ++ " = " ++ second ++ " != 0 ? " ++ first ++ " / " ++ second ++ " : " ++ zero)

def lowerSetVar (ctx : Context) (p : SetVarParams) : Lowered Unit := do
  if p.name = "" then ctx.incomplete "SetVar without a variable name" "SetVar: no variable name"
  else
    let target := ctx.identifier p.name
    let type := ctx.typeOf target
    let first ← ctx.operand type p.operand1
    let second ← ctx.operand type p.operand2
    let operation := Text.trim p.operation
    match arithmetic? operation with
    | some symbol => statement (target ++ " = " ++ first ++ " " ++ symbol ++ " " ++ second)
    | none =>
      if operation = "Divide" then lowerDivide target first second (FieldType.zero type)
      else
        if operation ≠ "Set" then
          Lowered.note "actions" .debug ("SetVar operation " ++ Text.quoted operation ++ " treated as Set")
        statement (target ++ " = " ++ first)

def lowerIncrementVar (ctx : Context) (p : IncrementVarParams) : Lowered Unit := do
  if p.name = "" then
    ctx.incomplete "IncrementVar without a variable name" "IncrementVar: no variable name"
  else
    let target := ctx.identifier p.name
    let type := ctx.typeOf target
    if p.amount.isZero then
      if type = some .int then
        Lowered.note "actions" .warning
          ("Entity " ++ ctx.entity.id ++ ": IncrementVar adds Time.deltaTime to int " ++ target ++
            ", truncated to whole units")
        statement (target ++ " += " ++ CSharp.intCast ++ "Time.deltaTime")
      else statement (target ++ " += Time.deltaTime")
    else
      statement (target ++ " += " ++ CSharp.numberLiteral (some (type.getD .float)) p.amount)

def lowerWait (p : WaitParams) : Lowered Unit := do
  statement ("yield return new WaitForSeconds(" ++ CSharp.floatLiteral p.seconds ++ ")")
  Lowered.suspend

def lowerChangeScene (ctx : Context) (p : ChangeSceneParams) : Lowered Unit := do
  if p.sceneName = "" then ctx.incomplete "ChangeScene without a scene" "ChangeScene: no scene given"
  else statement (← ctx.call (.changeScene (CSharp.quote p.sceneName)))

/-- Changes the health field by an amount. -/
def lowerHealth (ctx : Context) (sign label : String) (p : HealthParams) : Lowered Unit := do
  let health ← ctx.health
  Lowered.comment (label ++ ": " ++ p.amount.briefText)
  statement (health ++ " " ++ sign ++ "= " ++ CSharp.numberLiteral (ctx.typeOf health) p.amount)

def lowerAttack (ctx : Context) (p : AttackParams) : Lowered Unit := do
  Lowered.comment ("Attack: range=" ++ p.range.briefText ++ ", damage=" ++ p.damage.briefText)
  Lowered.block none do
    statement ("var hits = Physics2D.OverlapCircleAll(_transform.position, " ++
      ctx.lengthLiteral p.range ++ ")")
    Lowered.block (some "foreach (var hit in hits)") do
      Lowered.line "if (hit.gameObject != gameObject)"
      Lowered.indented do
        statement ("hit.SendMessage(\"OnTakeDamage\", " ++ CSharp.floatLiteral p.damage ++
          ", SendMessageOptions.DontRequireReceiver)")

def lowerFireProjectile (ctx : Context) (p : FireProjectileParams) : Lowered Unit := do
  statement (← ctx.call (.fireProjectile "_transform.position" (CSharp.quote p.targetRole)
    (ctx.lengthLiteral p.speed) (CSharp.floatLiteral p.damage)))

/-- The template that stands for the entity itself. -/
def selfTemplate : String := "__self__"

def lowerSpawnEntity (ctx : Context) (p : SpawnEntityParams) : Lowered Unit := do
  if p.templateId = "" then
    ctx.incomplete "SpawnEntity without a template" "SpawnEntity: no template given"
  else
    let position :=
      if p.positionMode = "absolute" then ctx.positionVector p.x p.y
      else "_transform.position + " ++ ctx.positionVector p.offsetX p.offsetY
    if p.templateId = selfTemplate then statement (← ctx.call (.spawnSelf position))
    else statement (← ctx.call (.spawn (CSharp.quote p.templateId) position))

def lowerPlayAnimation (ctx : Context) (p : PlayAnimationParams) : Lowered Unit := do
  if p.animationName = "" then
    ctx.incomplete "PlayAnimation without an animation name" "PlayAnimation: no animation given"
  else statement ("if (_animator != null) _animator.Play(" ++ CSharp.quote p.animationName ++ ")")

def lowerPulse (p : PulseParams) : Lowered Unit :=
  Lowered.block none do
    statement ("float pulse = Mathf.Lerp(" ++ CSharp.floatLiteral p.minScale ++ ", " ++
      CSharp.floatLiteral p.maxScale ++ ", (Mathf.Sin(Time.time * " ++ CSharp.floatLiteral p.speed ++
      ") + 1f) / 2f)")
    statement "_transform.localScale = new Vector3(pulse, pulse, 1f)"

def lowerPlayParticle (ctx : Context) (p : PlayParticleParams) : Lowered Unit := do
  statement (← ctx.call (.playParticle (CSharp.quote p.preset) "_transform.position"
    (CSharp.floatLiteral p.scale)))

def lowerRunModule (ctx : Context) (inline : Inline) (p : RunModuleParams) : Lowered Unit := do
  Lowered.comment ("RunModule: " ++ p.moduleId)
  if p.moduleId = "" then
    Lowered.note "actions" .warning ("RunModule without a module id on entity " ++ ctx.entity.id)
  else
    match inline with
    | some run => run p.moduleId
    | none =>
      Lowered.note "actions" .warning
        ("RunModule " ++ p.moduleId ++ " outside a traversal, not inlined")

/-- The statements of a known action. -/
def lowerActionKind (ctx : Context) (inline : Inline) (params : Params) :
    ActionKind → Lowered Unit
  | .log => do
    let p ← readParams LogParams.form params
    statement ("Debug.Log(" ++ CSharp.quote p.message ++ ")")
  | .move => do ctx.lowerMove (← readParams MoveParams.form params)
  | .rotate => do
    let p ← readParams RotateParams.form params
    statement ("_transform.Rotate(0, 0, " ++ CSharp.floatLiteral p.speed ++ " * Time.deltaTime)")
  | .chaseTarget => do ctx.lowerChaseTarget (← readParams ChaseTargetParams.form params)
  | .moveToward => do ctx.lowerMoveToward (← readParams MoveTowardParams.form params)
  | .setVar => do ctx.lowerSetVar (← readParams SetVarParams.form params)
  | .incrementVar => do ctx.lowerIncrementVar (← readParams IncrementVarParams.form params)
  | .wait => do lowerWait (← readParams WaitParams.form params)
  | .enable => do
    let p ← readParams EnableParams.form params
    statement ("gameObject.SetActive(" ++ CSharp.boolLiteral p.enabled ++ ")")
  | .changeScene => do ctx.lowerChangeScene (← readParams ChangeSceneParams.form params)
  | .destroy => do
    let _ ← readParams EmptyParams.form params
    statement "Destroy(gameObject)"
  | .takeDamage => do ctx.lowerHealth "-" "TakeDamage" (← readParams HealthParams.form params)
  | .heal => do ctx.lowerHealth "+" "Heal" (← readParams HealthParams.form params)
  | .attack => do ctx.lowerAttack (← readParams AttackParams.form params)
  | .fireProjectile => do ctx.lowerFireProjectile (← readParams FireProjectileParams.form params)
  | .spawnEntity => do ctx.lowerSpawnEntity (← readParams SpawnEntityParams.form params)
  | .playAnimation => do ctx.lowerPlayAnimation (← readParams PlayAnimationParams.form params)
  | .pulse => do lowerPulse (← readParams PulseParams.form params)
  | .playParticle => do ctx.lowerPlayParticle (← readParams PlayParticleParams.form params)
  | .startParticleEmitter => do
    let p ← readParams ParticleEmitterParams.form params
    Lowered.comment ("StartParticleEmitter: " ++ p.emitterId ++ " (" ++ p.preset ++ ") has no runtime support")
  | .stopParticleEmitter => do
    let p ← readParams ParticleEmitterParams.form params
    Lowered.comment ("StopParticleEmitter: " ++ p.emitterId ++ " has no runtime support")
  | .playSound => do
    let p ← readParams PlaySoundParams.form params
    statement (← ctx.call (.playSound (CSharp.quote p.soundId)))
  | .emitEventSignal => do
    let p ← readParams EmitSignalParams.form params
    statement (← ctx.call (.emitSignal (CSharp.quote p.signalKey)))
  | .clearSignal => do
    let p ← readParams ClearSignalParams.form params
    statement (← ctx.call (.clearSignal (CSharp.quote p.key)))
  | .showDialogue => do
    let p ← readParams ShowDialogueParams.form params
    statement (← ctx.call (.showDialogue (CSharp.quote p.text)))
  | .runModule => do ctx.lowerRunModule inline (← readParams RunModuleParams.form params)

/-- The statements of an action given by name; without a name there are none. -/
def lowerAction (ctx : Context) (inline : Inline) (action : Option String) (params : Params) :
    Lowered Unit := do
  match action with
  | none => return
  | some name =>
    if name = "" then return
    match ActionKind.ofName? name with
    | none => Lowered.fallback ctx.entity.id (.unknownAction name)
    | some kind =>
      Lowered.perform (.note (.lowering "actions" "action" kind.name ""))
      ctx.lowerActionKind inline params kind

end Context

end GraphScript
