import GraphScript.Log.Note
import GraphScript.Value.Display

namespace GraphScript

inductive Fallback where
  | unknownAction (action : String)
  | unknownCondition (name : String)
  | unknownNodeCondition (name node : String)
  | emptyCondition (node : String)
  | cycle (node moduleId moduleLabel : String)
  | depthLimit (limit : Nat) (moduleId : String)
  | budgetExhausted (limit : Nat) (moduleId : String)
  | missingModule (moduleId : String)
  | recursiveModule (moduleId : String)
  | missingEntry (moduleId : String)
  | unhandledTrigger (trigger : String)
deriving DecidableEq, Repr

namespace Fallback

/-- The short tag of the reason. -/
def reason : Fallback → String
  | unknownAction _ => "unknown_action"
  | unknownCondition _ => "unknown_condition"
  | unknownNodeCondition _ _ => "unknown_condition"
  | emptyCondition _ => "empty_condition"
  | cycle _ _ _ => "cycle"
  | depthLimit _ _ => "depth_limit"
  | budgetExhausted _ _ => "budget_exhausted"
  | missingModule _ => "missing_module"
  | recursiveModule _ => "recursive_module"
  | missingEntry _ => "missing_entry"
  | unhandledTrigger _ => "unhandled_trigger"

/-- The part of the compiler that took the decision. -/
def source : Fallback → String
  | unknownAction _ => "actions"
  | unknownCondition _ => "conditions"
  | unknownNodeCondition _ _ => "conditions"
  | emptyCondition _ => "conditions"
  | unhandledTrigger _ => "assembler"
  | _ => "traversal"

def message : Fallback → String
  | unknownAction action => "unknown action " ++ Text.quoted action
  | unknownCondition name => "unknown condition " ++ Text.quoted name ++ ", treating as true"
  | unknownNodeCondition name node =>
    "unknown condition " ++ Text.quoted name ++ " on node " ++ node ++ ", treating as true"
  | emptyCondition node => "condition node " ++ node ++ " has no variable, treating as true"
  | cycle node moduleId _ =>
    "cycle at node " ++ node ++ " of module " ++ moduleId ++ ", branch ends"
  | depthLimit limit moduleId =>
    "traversal depth " ++ toString limit ++ " reached in module " ++ moduleId ++ ", branch ends"
  | budgetExhausted limit moduleId =>
    "traversal budget of " ++ toString limit ++ " nodes spent in module " ++ moduleId ++ ", branch ends"
  | missingModule moduleId => "RunModule target " ++ moduleId ++ " not found"
  | recursiveModule moduleId => "module " ++ moduleId ++ " invokes itself, not inlined again"
  | missingEntry moduleId => "module " ++ moduleId ++ " has no entry node"
  | unhandledTrigger trigger =>
    "trigger " ++ Text.quoted trigger ++ " has no lifecycle hook, event skipped"

/-- The comment that stands in the code instead of what was left out. -/
def comment? : Fallback → Option String
  | unknownAction action => some ("Unknown action: " ++ action)
  | cycle node _ label => some ("Cycle: node " ++ node ++ " of module " ++ label ++ " already visited")
  | depthLimit limit _ => some ("Traversal depth limit (" ++ toString limit ++ ") reached")
  | budgetExhausted _ _ => some "Traversal budget exhausted"
  | missingModule moduleId => some ("Warning: Module " ++ moduleId ++ " not found")
  | recursiveModule moduleId =>
    some ("Recursive RunModule: " ++ moduleId ++ " is already running here")
  | missingEntry moduleId => some ("Warning: Module " ++ moduleId ++ " has no entry node")
  | _ => none

/-- The warning about an entity. -/
def note (entity : String) (f : Fallback) : Log.Note :=
  .message f.source .warning ("Entity " ++ entity ++ ": " ++ f.message)

/-- The record of a decision. -/
def record (entity : String) (f : Fallback) : Params :=
  [("type", .text "fallback"), ("reason", .text f.reason), ("entity_id", .text entity),
   ("module", .text f.source), ("message", .text f.message)]

end Fallback

end GraphScript
