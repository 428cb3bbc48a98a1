import GraphScript.Text.Blank
import GraphScript.Text.Case

namespace GraphScript

/-- The kind that a name stands for in a table of names: the exact spelling without blanks around
it, or else the first one that differs in case only. -/
def kindNamed? {α : Type} (table : List (String × α)) (name : String) : Option α :=
  let name := Text.trim name
  match table.find? fun entry => entry.1 == name with
  | some entry => some entry.2
  | none =>
    let folded := Text.lower name
    (table.find? fun entry => Text.lower entry.1 == folded).map Prod.snd

inductive ActionKind where
  | log
  | move
  | rotate
  | chaseTarget
  | moveToward
  | setVar
  | incrementVar
  | wait
  | enable
  | changeScene
  | destroy
  | takeDamage
  | heal
  | attack
  | fireProjectile
  | spawnEntity
  | playAnimation
  | pulse
  | playParticle
  | startParticleEmitter
  | stopParticleEmitter
  | playSound
  | emitEventSignal
  | clearSignal
  | showDialogue
  | runModule
deriving DecidableEq, Repr

namespace ActionKind

def all : List ActionKind :=
  [log, move, rotate, chaseTarget, moveToward, setVar, incrementVar, wait, enable, changeScene,
   destroy, takeDamage, heal, attack, fireProjectile, spawnEntity, playAnimation, pulse,
   playParticle, startParticleEmitter, stopParticleEmitter, playSound, emitEventSignal,
   clearSignal, showDialogue, runModule]

def name : ActionKind → String
  | log => "Log"
  | move => "Move"
  | rotate => "Rotate"
  | chaseTarget => "ChaseTarget"
  | moveToward => "MoveToward"
  | setVar => "SetVar"
  | incrementVar => "IncrementVar"
  | wait => "Wait"
  | enable => "Enable"
  | changeScene => "ChangeScene"
  | destroy => "Destroy"
  | takeDamage => "TakeDamage"
  | heal => "Heal"
  | attack => "Attack"
  | fireProjectile => "FireProjectile"
  | spawnEntity => "SpawnEntity"
  | playAnimation => "PlayAnimation"
  | pulse => "Pulse"
  | playParticle => "PlayParticle"
  | startParticleEmitter => "StartParticleEmitter"
  | stopParticleEmitter => "StopParticleEmitter"
  | playSound => "PlaySound"
  | emitEventSignal => "EmitEventSignal"
  | clearSignal => "ClearSignal"
  | showDialogue => "ShowDialogue"
  | runModule => "RunModule"

/-- Every name of an action. -/
def names : List (String × ActionKind) :=
  all.map fun kind => (kind.name, kind)

def ofName? (name : String) : Option ActionKind :=
  kindNamed? names name

end ActionKind

/-- The order or equality that a comparison tests. -/
inductive Comparison where
  | equal
  | notEqual
  | greater
  | less
  | greaterOrEqual
  | lessOrEqual
deriving DecidableEq, Repr

namespace Comparison

def symbol : Comparison → String
  | equal => "=="
  | notEqual => "!="
  | greater => ">"
  | less => "<"
  | greaterOrEqual => ">="
  | lessOrEqual => "<="

def all : List Comparison :=
  [equal, notEqual, greater, less, greaterOrEqual, lessOrEqual]

def ofSymbol? (text : String) : Option Comparison :=
  all.find? fun c => c.symbol == text

end Comparison

/-- When an input condition holds: while the key is down, when it is let go, when it is pressed. -/
inductive KeyPhase where
  | held
  | released
  | pressed
deriving DecidableEq, Repr

inductive ConditionKind where
  | compare (comparison : Comparison)
  | isAlive
  | healthBelow
  | healthAbove
  | roleEquals
  | input (phase : KeyPhase)
deriving DecidableEq, Repr

namespace ConditionKind

def all : List ConditionKind :=
  [compare .equal, compare .notEqual, compare .greater, compare .less,
   compare .greaterOrEqual, compare .lessOrEqual, isAlive, healthBelow, healthAbove, roleEquals,
   input .held, input .released, input .pressed]

def name : ConditionKind → String
  | compare .equal => "VarEquals"
  | compare .notEqual => "VarNotEquals"
  | compare .greater => "VarGreaterThan"
  | compare .less => "VarLessThan"
  | compare .greaterOrEqual => "VarGreaterOrEqual"
  | compare .lessOrEqual => "VarLessOrEqual"
  | isAlive => "IsAlive"
  | healthBelow => "HpBelow"
  | healthAbove => "HpAbove"
  | roleEquals => "RoleEquals"
  | input .held => "InputDown"
  | input .released => "InputUp"
  | input .pressed => "InputPressed"

/-- Further names that editors give to conditions. -/
def aliases : List (String × ConditionKind) :=
  [("VariableEquals", compare .equal),
   ("IfVariableEquals", compare .equal),
   ("VariableNotEquals", compare .notEqual),
   ("VariableGreaterThan", compare .greater),
   ("IfVariableGreaterThan", compare .greater),
   ("VariableLessThan", compare .less),
   ("IfVariableLessThan", compare .less),
   ("VariableGreaterOrEqual", compare .greaterOrEqual),
   ("VariableLessOrEqual", compare .lessOrEqual),
   ("InputHeld", input .held),
   ("InputKey", input .held)]

/-- Every name of a condition. -/
def names : List (String × ConditionKind) :=
  all.map (fun kind => (kind.name, kind)) ++ aliases

def ofName? (name : String) : Option ConditionKind :=
  kindNamed? names name

end ConditionKind

end GraphScript
