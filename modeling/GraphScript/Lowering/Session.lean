import GraphScript.Lowering.Field
import GraphScript.Lowering.Walk

namespace GraphScript

structure Session where
  context : Context
  /-- Whether actions outside a walk can run modules. -/
  runsModules : Bool
  writer : Writer
  facts : Facts
  budget : Nat

namespace Session

def new (context : Context) (runsModules : Bool) : Session :=
  ⟨context, runsModules, .new 0, .none, context.config.maxEmittedNodes⟩

/-- How actions outside a walk run modules. -/
def inline (s : Session) : Inline :=
  if s.runsModules then some (s.context.runModule s.budget) else none

/-- The session after a lowering, whether it ended with a result or not. -/
def after {α : Type} (s : Session) (x : Lowered α) : Session :=
  { s with
    writer := s.writer.play x.pieces
    facts := s.facts.after x.effects
    budget := s.budget - x.visits.length }

end Session

end GraphScript
