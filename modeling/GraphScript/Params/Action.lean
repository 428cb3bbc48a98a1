import GraphScript.Params.Form

namespace GraphScript

/-- A number given by its decimal digits. -/
def tenths (n : Nat) : Binary64 :=
  .ofDecimal false n (-1)

structure EmptyParams where

def EmptyParams.form : Form EmptyParams EmptyParams :=
  .start "EmptyParams" ⟨⟩

structure LogParams where
  message : String

def LogParams.form : Form LogParams LogParams :=
  (Form.start "LogParams" mk).slot (.plain "message" "") (·.message)

structure MoveParams where
  speed : Binary64
  direction : Vec2

def MoveParams.form : Form MoveParams MoveParams :=
  ((Form.start "MoveParams" mk).slot (.plain "speed" (.ofNat 200)) (·.speed)).slot
    (.plain "direction" ⟨.zero false, .zero false⟩) (·.direction)

structure RotateParams where
  speed : Binary64

def RotateParams.form : Form RotateParams RotateParams :=
  (Form.start "RotateParams" mk).slot (.plain "speed" (.ofNat 90)) (·.speed)

structure ChaseTargetParams where
  targetId : String
  speed : Binary64

def ChaseTargetParams.form : Form ChaseTargetParams ChaseTargetParams :=
  ((Form.start "ChaseTargetParams" mk).slot (.keyed ["targetId"] "target_id" "") (·.targetId)).slot
    (.plain "speed" (.ofNat 80)) (·.speed)

structure MoveTowardParams where
  x : Binary64
  y : Binary64
  speed : Binary64

def MoveTowardParams.form : Form MoveTowardParams MoveTowardParams :=
  (((Form.start "MoveTowardParams" mk).slot (.plain "x" (.zero false)) (·.x)).slot
    (.plain "y" (.zero false)) (·.y)).slot (.plain "speed" (.ofNat 100)) (·.speed)

structure SetVarParams where
  name : String
  operation : String
  operand1 : Value
  operand2 : Value

def SetVarParams.form : Form SetVarParams SetVarParams :=
  ((((Form.start "SetVarParams" mk).slot (.plain "name" "") (·.name)).slot
    (.plain "operation" "Set") (·.operation)).slot (.plain "operand1" .null) (·.operand1)).slot
    (.plain "operand2" .null) (·.operand2)

structure IncrementVarParams where
  name : String
  amount : Binary64

def IncrementVarParams.form : Form IncrementVarParams IncrementVarParams :=
  ((Form.start "IncrementVarParams" mk).slot (.plain "name" "") (·.name)).slot
    (.plain "amount" (.zero false)) (·.amount)

structure WaitParams where
  seconds : Binary64

def WaitParams.form : Form WaitParams WaitParams :=
  (Form.start "WaitParams" mk).slot (.plain "seconds" (.ofNat 1)) (·.seconds)

structure EnableParams where
  enabled : Bool

def EnableParams.form : Form EnableParams EnableParams :=
  (Form.start "EnableParams" mk).slot (.plain "enabled" true) (·.enabled)

structure ChangeSceneParams where
  sceneName : String

def ChangeSceneParams.form : Form ChangeSceneParams ChangeSceneParams :=
  (Form.start "ChangeSceneParams" mk).slot (.keyed ["sceneName", "sceneId"] "scene_name" "")
    (·.sceneName)

/-- The parameters of damage and healing. -/
structure HealthParams where
  amount : Binary64

def HealthParams.form : Form HealthParams HealthParams :=
  (Form.start "HealthParams" mk).slot (.plain "amount" (.ofNat 10)) (·.amount)

structure AttackParams where
  range : Binary64
  damage : Binary64

def AttackParams.form : Form AttackParams AttackParams :=
  ((Form.start "AttackParams" mk).slot (.plain "range" (.ofNat 100)) (·.range)).slot
    (.plain "damage" (.ofNat 10)) (·.damage)

structure FireProjectileParams where
  speed : Binary64
  damage : Binary64
  targetRole : String

def FireProjectileParams.form : Form FireProjectileParams FireProjectileParams :=
  (((Form.start "FireProjectileParams" mk).slot (.plain "speed" (.ofNat 500)) (·.speed)).slot
    (.plain "damage" (.ofNat 10)) (·.damage)).slot
    (.keyed ["targetRole"] "target_role" "enemy") (·.targetRole)

structure SpawnEntityParams where
  templateId : String
  positionMode : String
  offsetX : Binary64
  offsetY : Binary64
  x : Binary64
  y : Binary64

def SpawnEntityParams.form : Form SpawnEntityParams SpawnEntityParams :=
  ((((((Form.start "SpawnEntityParams" mk).slot
    (.keyed ["templateId"] "template_id" "") (·.templateId)).slot
    (.keyed ["positionMode"] "position_mode" "relative") (·.positionMode)).slot
    (.keyed ["offsetX"] "offset_x" (.zero false)) (·.offsetX)).slot
    (.keyed ["offsetY"] "offset_y" (.zero false)) (·.offsetY)).slot
    (.plain "x" (.zero false)) (·.x)).slot
    (.plain "y" (.zero false)) (·.y)

structure PlayAnimationParams where
  animationName : String

/-- The keys under which editors have put the name of an animation. -/
def animationKeys : List String :=
  ["animationName", "animName", "animation", "name", "anim", "clip", "state"]

def PlayAnimationParams.form : Form PlayAnimationParams PlayAnimationParams :=
  (Form.start "PlayAnimationParams" mk).slot (.keyed animationKeys "animation_name" "")
    (·.animationName)

structure PulseParams where
  speed : Binary64
  minScale : Binary64
  maxScale : Binary64

def PulseParams.form : Form PulseParams PulseParams :=
  (((Form.start "PulseParams" mk).slot (.plain "speed" (.ofNat 2)) (·.speed)).slot
    (.keyed ["minScale"] "min_scale" (tenths 9)) (·.minScale)).slot
    (.keyed ["maxScale"] "max_scale" (tenths 11)) (·.maxScale)

structure PlayParticleParams where
  preset : String
  scale : Binary64

def PlayParticleParams.form : Form PlayParticleParams PlayParticleParams :=
  ((Form.start "PlayParticleParams" mk).slot (.plain "preset" "hit_spark") (·.preset)).slot
    (.plain "scale" (.ofNat 1)) (·.scale)

structure ParticleEmitterParams where
  emitterId : String
  preset : String

def ParticleEmitterParams.form : Form ParticleEmitterParams ParticleEmitterParams :=
  ((Form.start "ParticleEmitterParams" mk).slot
    (.keyed ["emitterId"] "emitter_id" "") (·.emitterId)).slot (.plain "preset" "fire") (·.preset)

structure PlaySoundParams where
  soundId : String

def PlaySoundParams.form : Form PlaySoundParams PlaySoundParams :=
  (Form.start "PlaySoundParams" mk).slot (.keyed ["soundId"] "sound_id" "") (·.soundId)

structure EmitSignalParams where
  signalKey : String

def EmitSignalParams.form : Form EmitSignalParams EmitSignalParams :=
  (Form.start "EmitSignalParams" mk).slot (.keyed ["signalKey"] "signal_key" "") (·.signalKey)

structure ClearSignalParams where
  key : String

def ClearSignalParams.form : Form ClearSignalParams ClearSignalParams :=
  (Form.start "ClearSignalParams" mk).slot (.plain "key" "") (·.key)

structure ShowDialogueParams where
  text : String

def ShowDialogueParams.form : Form ShowDialogueParams ShowDialogueParams :=
  (Form.start "ShowDialogueParams" mk).slot (.plain "text" "") (·.text)

structure RunModuleParams where
  moduleId : String

def RunModuleParams.form : Form RunModuleParams RunModuleParams :=
  (Form.start "RunModuleParams" mk).slot (.keyed ["moduleId"] "module_id" "") (·.moduleId)

end GraphScript
