import GraphScript.Code.Writer
import GraphScript.Fault
import GraphScript.Lowering.Fallback
import GraphScript.Model.Graph

namespace GraphScript

/-- A node reached by a walk, with the path that led to it. -/
structure Visit where
  module : Module
  node : Node
  path : List (String × String)

/-- What a lowering does besides giving its result. -/
inductive Effect where
  | write (piece : Piece)
  | visit (visit : Visit)
  | note (note : Log.Note)
  /-- A fallback decision for an entity, which is both logged and recorded. -/
  | fallback (entity : String) (fallback : Fallback)
  /-- A record about the run. -/
  | record (fields : Params)
  /-- The generated code needs a namespace. -/
  | needNamespace (name : String)
  /-- The generated code refers to the health field. -/
  | useHealth

namespace Effect

def piece? : Effect → Option Piece
  | write piece => some piece
  | _ => none

def visit? : Effect → Option Visit
  | visit v => some v
  | _ => none

def note? : Effect → Option Log.Note
  | note n => some n
  | fallback entity f => some (f.note entity)
  | _ => none

def record? : Effect → Option Params
  | record fields => some fields
  | fallback entity f => some (f.record entity)
  | _ => none

def namespace? : Effect → Option String
  | needNamespace name => some name
  | _ => none

def isHealthUse : Effect → Bool
  | useHealth => true
  | _ => false

end Effect

/-- A lowering: its effects in order, and its result unless a fault ended it. -/
structure Lowered (α : Type) where
  effects : List Effect
  result : Except Fault α

namespace Lowered

variable {α β : Type}

def pure (a : α) : Lowered α :=
  ⟨[], .ok a⟩

/-- Goes on with the result; after a fault nothing follows. -/
def bind (x : Lowered α) (f : α → Lowered β) : Lowered β :=
  match x.result with
  | .ok a => ⟨x.effects ++ (f a).effects, (f a).result⟩
  | .error fault => ⟨x.effects, .error fault⟩

instance : Monad Lowered where
  pure := pure
  bind := bind

def perform (effect : Effect) : Lowered Unit :=
  ⟨[effect], .ok ()⟩

/-- A computation that may stop at a fault. -/
def ofExcept (result : Except Fault α) : Lowered α :=
  ⟨[], result⟩

def line (text : String) : Lowered Unit :=
  perform (.write (.line text))

def comment (text : String) : Lowered Unit :=
  perform (.write (.comment text))

/-- A braced block around what `body` writes; a fault leaves the block open. -/
def block (header : Option String) (body : Lowered Unit) : Lowered Unit := do
  perform (.write (.openBlock header))
  body
  perform (.write .close)

/-- What `body` writes, one deeper. -/
def indented (body : Lowered Unit) : Lowered Unit := do
  perform (.write .indent)
  body
  perform (.write .close)

def suspend : Lowered Unit :=
  perform (.write .suspend)

def note (source : String) (level : Log.Level) (text : String) : Lowered Unit :=
  perform (.note (.message source level text))

/-- A note about a value. -/
def noteAbout (value : Value) (source : String) (level : Log.Level) (text : String) :
    Lowered Unit :=
  perform (.note (.about value source level text))

/-- Takes a fallback decision: logs and records it, and writes its comment. -/
def fallback (entity : String) (f : Fallback) : Lowered Unit := do
  perform (.fallback entity f)
  match f.comment? with
  | some text => comment text
  | none => pure ()

/-- The same lowering where notes are shown: the first that is to be shown and cannot be ends it. -/
def shown (settings : Log.Settings) (x : Lowered α) : Lowered α :=
  let isBroken (e : Effect) : Bool := (e.note?.map (Log.Note.isBroken settings)).getD false
  if x.effects.any isBroken then
    ⟨x.effects.takeWhile fun e => !isBroken e, .error .integerTooLong⟩
  else x

/-- What is written. -/
def pieces (x : Lowered α) : List Piece :=
  x.effects.filterMap Effect.piece?

def visits (x : Lowered α) : List Visit :=
  x.effects.filterMap Effect.visit?

def notes (x : Lowered α) : List Log.Note :=
  x.effects.filterMap Effect.note?

def records (x : Lowered α) : List Params :=
  x.effects.filterMap Effect.record?

/-- The same lowering with what it writes taken out and given as a result. -/
def capture (x : Lowered α) : Lowered (List Piece × α) :=
  ⟨x.effects.filter fun e => e.piece?.isNone, x.result.map fun a => (x.pieces, a)⟩

/-- The same lowering with its effects given as a result beside its own. -/
def observe (x : Lowered α) : Lowered (List Effect × α) :=
  ⟨x.effects, x.result.map fun a => (x.effects, a)⟩

end Lowered

/-- What the class around lowered code has to provide. -/
structure Facts where
  usesHealth : Bool
  namespaces : List String

namespace Facts

def none : Facts :=
  ⟨false, []⟩

/-- The facts after further effects. -/
def after (facts : Facts) (effects : List Effect) : Facts :=
  ⟨facts.usesHealth || effects.any Effect.isHealthUse,
   facts.namespaces ++ effects.filterMap Effect.namespace?⟩

/-- The texts in order, each once. -/
def distinct (texts : List String) : List String :=
  (texts.mergeSort fun a b => decide (a ≤ b)).eraseReps

/-- The namespaces in order, each once. -/
def sortedNamespaces (facts : Facts) : List String :=
  distinct facts.namespaces

end Facts

end GraphScript
