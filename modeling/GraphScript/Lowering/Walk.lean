import GraphScript.Lowering.Condition

namespace GraphScript

/-- The nodes on the way to a place, as module and node ids. -/
abbrev Path := List (String × String)

/-- What a walk meets. -/
inductive Walk where
  /-- Nothing follows. -/
  | done
  /-- The branch ends before its next node. -/
  | cut (reason : Fallback)
  /-- A node that ends the branch. -/
  | stop (visit : Visit)
  /-- A node that does nothing. -/
  | pass (visit : Visit) (rest : Walk)
  /-- An action, with the walk of the module that it runs. -/
  | perform (visit : Visit) (inlined rest : Walk)
  | branch (visit : Visit) (yes no : Walk)

/-- The ports through which a walk goes on. -/
inductive Ports where
  | flow
  | yes
  | no
deriving DecidableEq, Repr

namespace Ports

def names : Ports → List String
  | flow => ["out", "next", "flow", ""]
  | yes => ["true", "then"]
  | no => ["false", "else"]

end Ports

/-- Whether an edge leaves its node by one of the ports; a missing port is the empty one. -/
def Edge.leavesBy (ports : List String) (edge : Edge) : Bool :=
  ports.contains (Text.lower (Text.trim (edge.sourcePort.getD "")))

/-- The target of the first edge that leaves a node by one of the ports. -/
def Module.successorBy? (module : Module) (node : Node) (ports : List String) : Option Node :=
  match (module.outgoing node.id).find? (Edge.leavesBy ports) with
  | some edge => edge.target.bind module.node?
  | none => none

/-- Where a walk goes on from a node. -/
def Module.successor? (module : Module) (node : Node) (ports : Ports) : Option Node :=
  module.successorBy? node ports.names

/-- The module that a node runs. -/
def Node.calledModule? (node : Node) : Option String :=
  match node.action.bind ActionKind.ofName? with
  | some .runModule =>
    let id := (RunModuleParams.form.coerce node.params).2.moduleId
    if id = "" then none else some id
  | _ => none

namespace Context

/-- Where a module starts that is run from a place, unless it cannot be. -/
def moduleStart (ctx : Context) (path : Path) (id : String) : Except Fallback (Module × Node) :=
  match ctx.entity.module? id with
  | none => .error (.missingModule id)
  | some module =>
    if path.any fun step => step.1 == module.id then .error (.recursiveModule id)
    else
      match module.entryNode? with
      | none => .error (.missingEntry id)
      | some entry => .ok (module, entry)

/-- Plans a walk from a node, and tells the budget that is left. `depth` is how many more nodes the
path may take. -/
def planFrom (ctx : Context) : Nat → Nat → Path → Module → Option Node → Walk × Nat
  | _, budget, _, _, none => (.done, budget)
  | depth, budget, path, module, some node =>
    let step := (module.id, node.id)
    if path.contains step then (.cut (.cycle node.id module.id module.label), budget)
    else
      match depth, budget with
      | 0, _ => (.cut (.depthLimit ctx.config.maxTraversalDepth module.id), budget)
      | _ + 1, 0 => (.cut (.budgetExhausted ctx.config.maxEmittedNodes module.id), 0)
      | depth + 1, budget + 1 =>
        let visit : Visit := ⟨module, node, path⟩
        let path := path ++ [step]
        match node.role with
        | .stop => (.stop visit, budget)
        | .condition =>
          let (yes, budget) := planFrom ctx depth budget path module (module.successor? node .yes)
          let (no, budget) := planFrom ctx depth budget path module (module.successor? node .no)
          (.branch visit yes no, budget)
        | .action =>
          let (inlined, budget) :=
            match node.calledModule? with
            | none => (.done, budget)
            | some id =>
              match ctx.moduleStart path id with
              | .error reason => (.cut reason, budget)
              | .ok (called, entry) => planFrom ctx depth budget path called (some entry)
          let (rest, budget) := planFrom ctx depth budget path module (module.successor? node .flow)
          (.perform visit inlined rest, budget)
        | _ =>
          let (rest, budget) := planFrom ctx depth budget path module (module.successor? node .flow)
          (.pass visit rest, budget)

/-- Plans a walk after a path. -/
def plan (ctx : Context) (budget : Nat) (path : Path) (module : Module) (start : Option Node) :
    Walk :=
  (ctx.planFrom (ctx.config.maxTraversalDepth - path.length) budget path module start).1

/-- Plans the walk of a module given by its id. -/
def planModule (ctx : Context) (budget : Nat) (path : Path) (id : String) : Walk :=
  match ctx.moduleStart path id with
  | .error reason => .cut reason
  | .ok (module, entry) => ctx.plan budget path module (some entry)

/-- The code of a walk. -/
def lowerWalk (ctx : Context) : Walk → Lowered Unit
  | .done => pure ()
  | .cut reason => Lowered.fallback ctx.entity.id reason
  | .stop visit => Lowered.perform (.visit visit)
  | .pass visit rest => do
    Lowered.perform (.visit visit)
    if visit.node.role = .other then
      Lowered.note "traversal" .debug
        ("Node " ++ visit.node.id ++ " has unknown kind " ++ Text.quoted visit.node.kind ++ ", passing through")
    ctx.lowerWalk rest
  | .perform visit inlined rest => do
    Lowered.perform (.visit visit)
    ctx.lowerAction (some fun _ => ctx.lowerWalk inlined) visit.node.action visit.node.params
    ctx.lowerWalk rest
  | .branch visit yes no => do
    Lowered.perform (.visit visit)
    let expression ← ctx.lowerConditionNode visit.node
    Lowered.block (some ("if (" ++ expression ++ ")")) (ctx.lowerWalk yes)
    Lowered.block (some "else") (ctx.lowerWalk no)

/-- The code of all that can be reached from a node. -/
def traverse (ctx : Context) (budget : Nat) (path : Path) (module : Module) (start : Option Node) :
    Lowered Unit :=
  ctx.lowerWalk (ctx.plan budget path module start)

/-- The code of a module, in the place of a call. -/
def runModule (ctx : Context) (budget : Nat) (id : String) : Lowered Unit :=
  ctx.lowerWalk (ctx.planModule budget [] id)

end Context

end GraphScript
