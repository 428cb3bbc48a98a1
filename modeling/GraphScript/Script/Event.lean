import GraphScript.Lowering.Walk

namespace GraphScript

/-- A method that the engine calls again and again. -/
inductive Hook where
  | update
  | collision
deriving DecidableEq, Repr

namespace Hook

def all : List Hook := [update, collision]

def method : Hook → String
  | update => "Update"
  | collision => "OnCollisionEnter2D"

def signature : Hook → String
  | update => "void Update()"
  | collision => "void OnCollisionEnter2D(Collision2D collision)"

end Hook

/-- When an event happens. -/
inductive Trigger where
  | start
  | hook (hook : Hook)
deriving DecidableEq, Repr

def Trigger.ofName? : String → Option Trigger
  | "OnStart" => some .start
  | "OnUpdate" => some (.hook .update)
  | "OnCollision" => some (.hook .collision)
  | _ => none

/-- A method for an event that waits where the method around it must not. Its flag is set while it
runs. -/
structure Routine where
  name : String
  flag : String
  body : Writer

/-- The routine of a hook with a number. -/
def Routine.of (hook : Hook) (number : Nat) (body : Writer) : Routine :=
  let name := hook.method ++ "Routine" ++ toString number
  let flag :=
    match name.toList with
    | c :: rest => "_" ++ String.ofList (c.toLower :: rest) ++ "Running"
    | [] => "_Running"
  ⟨name, flag, body⟩

/-- The bodies of a class under construction. -/
structure Bodies where
  start : Writer
  update : Writer
  collision : Writer
  routines : List Routine
  /-- Triggers without a method, with the number of their events. -/
  unhandled : List (String × Nat)
  budget : Nat

namespace Bodies

def new (budget : Nat) : Bodies :=
  ⟨.new 0, .new 0, .new 0, [], [], budget⟩

def hook (b : Bodies) : Hook → Writer
  | .update => b.update
  | .collision => b.collision

def target (b : Bodies) : Trigger → Writer
  | .start => b.start
  | .hook h => b.hook h

/-- Replaces the body of a trigger. -/
def withTarget (b : Bodies) (trigger : Trigger) (w : Writer) : Bodies :=
  match trigger with
  | .start => { b with start := w }
  | .hook .update => { b with update := w }
  | .hook .collision => { b with collision := w }

/-- Counts an event whose trigger has no method. -/
def countUnhandled (trigger : String) : List (String × Nat) → List (String × Nat)
  | [] => [(trigger, 1)]
  | (name, count) :: rest =>
    if name = trigger then (name, count + 1) :: rest else (name, count) :: countUnhandled trigger rest

/-- Spends the budget of what was visited. -/
def spend (b : Bodies) (effects : List Effect) : Bodies :=
  { b with budget := b.budget - (effects.filterMap Effect.visit?).length }

/-- Adds a body to the method of a trigger, inside nested guards. -/
def add (b : Bodies) (trigger : Trigger) (guards : List String) (body : Writer) : Bodies :=
  let opened := guards.foldl (fun w guard => w.openBlock (some ("if (" ++ guard ++ ")"))) (b.target trigger)
  let closed := guards.foldl (fun w _ => w.close) (opened.extend body)
  b.withTarget trigger closed

/-- A body that waits moves from a hook to a routine, and a call of it takes its place. -/
def settle (b : Bodies) (trigger : Trigger) (body : Writer) : Bodies × Writer :=
  match trigger with
  | .start => (b, body)
  | .hook h =>
    if body.suspends then
      let routine := Routine.of h b.routines.length body
      ({ b with routines := b.routines ++ [routine] },
       (Writer.new 0).line ("if (!" ++ routine.flag ++ ") StartCoroutine(" ++ routine.name ++ "());"))
    else (b, body)

end Bodies

namespace Context

/-- The key of an event's cooldown. -/
def cooldownKey (ctx : Context) (index : Nat) : String :=
  CSharp.quote (ctx.entity.id ++ ":" ++ toString index)

/-- The guard of an event's conditions, if it has any. -/
def conditionGuard (ctx : Context) (event : Event) : Lowered (List String) := do
  if event.conditions.isEmpty then return []
  let parts ← event.conditions.mapM ctx.lowerCondition
  return [combine event.usesOr parts]

/-- The guard of an event's cooldown, if it has one. -/
def cooldownGuard (ctx : Context) (index : Nat) (event : Event) : Lowered (List String) := do
  match ← Lowered.ofExcept ((event.triggerParams.lookup "cooldown").getD .null).number? with
  | some seconds =>
    if seconds.isPositive then
      return [← ctx.call (.cooldown (ctx.cooldownKey index) (CSharp.floatLiteral seconds))]
    else return []
  | none => return []

/-- The guards of an event, from the outside to the inside. -/
def guards (ctx : Context) (index : Nat) (event : Event) : Lowered (List String) := do
  let conditions ← ctx.conditionGuard event
  let cooldown ← ctx.cooldownGuard index event
  return conditions ++ cooldown

/-- Adds an event to the bodies. -/
def addEvent (ctx : Context) (index : Nat) (event : Event) (b : Bodies) : Lowered Bodies := do
  let name := Text.trim event.trigger
  match Trigger.ofName? name with
  | none =>
    Lowered.fallback ctx.entity.id (.unhandledTrigger name)
    return { b with unhandled := Bodies.countUnhandled name b.unhandled }
  | some trigger =>
    let action := ctx.lowerAction (some (ctx.runModule b.budget)) event.action event.params
    let (effects, pieces, _) ← action.capture.observe
    let b := b.spend effects
    let body := (Writer.new 0).run pieces
    if body.isEmpty then return b
    let (b, body) := b.settle trigger body
    let guards ← ctx.guards index event
    return b.add trigger guards body

/-- Adds events one after another, counting from an index. -/
def addEvents (ctx : Context) (index : Nat) : List Event → Bodies → Lowered Bodies
  | [], b => return b
  | event :: rest, b => do
    let b ← ctx.addEvent index event b
    ctx.addEvents (index + 1) rest b

/-- The first module that a walk can start in. -/
def startModule? (ctx : Context) : Option Module :=
  ctx.entity.modules.find? fun m => m.entryNode?.isSome

/-- The code of the first module. -/
def lowerStart (ctx : Context) (budget : Nat) : Lowered Unit := do
  match ctx.startModule? with
  | none => return
  | some module =>
    Lowered.comment ("Module: " ++ module.label)
    ctx.traverse budget [] module module.entryNode?

/-- All bodies of an entity's class. -/
def bodies (ctx : Context) : Lowered Bodies := do
  let b := Bodies.new ctx.config.maxEmittedNodes
  let (effects, pieces, _) ← (ctx.lowerStart b.budget).capture.observe
  let b := { b.spend effects with start := b.start.run pieces }
  ctx.addEvents 0 ctx.entity.events b

end Context

end GraphScript
