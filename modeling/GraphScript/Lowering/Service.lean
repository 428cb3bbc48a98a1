import GraphScript.Config.Basic
import GraphScript.Fault

namespace GraphScript

inductive Service where
  | spawn
  | spawnSelf
  | playParticle
  | playSound
  | fireProjectile
  | emitSignal
  | clearSignal
  | showDialogue
  | changeScene
  | cooldown
deriving DecidableEq, Repr

/-- A service with its arguments, which are expressions of the generated code. -/
inductive ServiceCall where
  | spawn (template position : String)
  | spawnSelf (position : String)
  | playParticle (preset position scale : String)
  | playSound (sound : String)
  | fireProjectile (origin role speed damage : String)
  | emitSignal (key : String)
  | clearSignal (key : String)
  | showDialogue (text : String)
  | changeScene (scene : String)
  /-- True when the gate opens. -/
  | cooldown (key seconds : String)
deriving DecidableEq, Repr

namespace Service

def all : List Service :=
  [spawn, spawnSelf, playParticle, playSound, fireProjectile, emitSignal, clearSignal,
   showDialogue, changeScene, cooldown]

def name : Service → String
  | spawn => "spawn"
  | spawnSelf => "spawn_self"
  | playParticle => "play_particle"
  | playSound => "play_sound"
  | fireProjectile => "fire_projectile"
  | emitSignal => "emit_signal"
  | clearSignal => "clear_signal"
  | showDialogue => "show_dialogue"
  | changeScene => "change_scene"
  | cooldown => "cooldown"

/-- The service of a name. -/
def named (name : String) : Except Fault Service :=
  match all.find? fun service => service.name == name with
  | some service => .ok service
  | none => .error (.unknownName name)

/-- Further namespaces that the static call needs. -/
def namespaces : Service → List String
  | changeScene => ["UnityEngine.SceneManagement"]
  | _ => []

/-- The argument of a name. -/
def argument (args : List (String × String)) (name : String) : Except Fault String :=
  match args.lookup name with
  | some text => .ok text
  | none => .error (.unknownName name)

/-- The call with named arguments; the first one that is missing is reported. -/
def withArguments (args : List (String × String)) : Service → Except Fault ServiceCall
  | spawn => do return .spawn (← argument args "template") (← argument args "position")
  | spawnSelf => do return .spawnSelf (← argument args "position")
  | playParticle => do
    return .playParticle (← argument args "preset") (← argument args "position")
      (← argument args "scale")
  | playSound => do return .playSound (← argument args "sound")
  | fireProjectile => do
    return .fireProjectile (← argument args "origin") (← argument args "role")
      (← argument args "speed") (← argument args "damage")
  | emitSignal => do return .emitSignal (← argument args "key")
  | clearSignal => do return .clearSignal (← argument args "key")
  | showDialogue => do return .showDialogue (← argument args "text")
  | changeScene => do return .changeScene (← argument args "scene")
  | cooldown => do return .cooldown (← argument args "key") (← argument args "seconds")

end Service

namespace ServiceCall

def service : ServiceCall → Service
  | spawn _ _ => .spawn
  | spawnSelf _ => .spawnSelf
  | playParticle _ _ _ => .playParticle
  | playSound _ => .playSound
  | fireProjectile _ _ _ _ => .fireProjectile
  | emitSignal _ => .emitSignal
  | clearSignal _ => .clearSignal
  | showDialogue _ => .showDialogue
  | changeScene _ => .changeScene
  | cooldown _ _ => .cooldown

/-- The field that holds the context object. -/
def contextField : String := "_context"

/-- The call through the context object; without one it does nothing, and a gate is open. -/
def renderContext : ServiceCall → String
  | spawn template position => s!"{contextField}?.Prefabs.Spawn({template}, {position})"
  | spawnSelf position => s!"{contextField}?.Prefabs.SpawnSelf(gameObject, {position})"
  | playParticle preset position scale =>
    s!"{contextField}?.Particles.Play({preset}, {position}, {scale})"
  | playSound sound => s!"{contextField}?.Audio.Play({sound})"
  | fireProjectile origin role speed damage =>
    s!"{contextField}?.Projectiles.Fire({origin}, {role}, {speed}, {damage})"
  | emitSignal key => s!"{contextField}?.Events.Emit({key})"
  | clearSignal key => s!"{contextField}?.Events.Clear({key})"
  | showDialogue text => s!"{contextField}?.Dialogue.Show({text})"
  | changeScene scene => s!"{contextField}?.Scenes.Load({scene})"
  | cooldown key seconds =>
    s!"{contextField} == null || {contextField}.Cooldowns.TryUse({key}, {seconds})"

/-- The static call. -/
def renderStatic : ServiceCall → String
  | spawn template position => s!"PrefabRegistry.SpawnStatic({template}, {position})"
  | spawnSelf position => s!"PrefabRegistry.SpawnSelfStatic(gameObject, {position})"
  | playParticle preset position scale =>
    s!"ParticleManager.PlayStatic({preset}, {position}, {scale})"
  | playSound sound => s!"AudioManager.PlayStatic({sound})"
  | fireProjectile origin role speed damage =>
    s!"ProjectileManager.FireStatic({origin}, {role}, {speed}, {damage})"
  | emitSignal key => s!"EventBus.Emit({key})"
  | clearSignal key => s!"EventBus.Clear({key})"
  | showDialogue text => s!"DialogueManager.Show({text})"
  | changeScene scene => s!"SceneManager.LoadScene({scene})"
  | cooldown key seconds => s!"CooldownManager.TryUse({key}, {seconds})"

def render (mode : ServiceMode) (c : ServiceCall) : String :=
  match mode with
  | .context => c.renderContext
  | .static => c.renderStatic

end ServiceCall

end GraphScript
