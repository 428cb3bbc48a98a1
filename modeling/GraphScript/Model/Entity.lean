import GraphScript.CSharp.Literal
import GraphScript.Model.Graph
import GraphScript.Text.Blank
import GraphScript.Text.Case

namespace GraphScript

structure Variable where
  id : Option String
  name : String
  type : String
  value : Value

namespace Variable

/-- The name of the declared type, in lower case and without blanks around it. -/
def declaredType (v : Variable) : String :=
  Text.lower (Text.trim v.type)

def fieldType (v : Variable) : FieldType :=
  .ofName v.declaredType

def title : String := "Variable"

def ofEntries (entries : List (Value × Value)) : Checked Variable :=
  mk <$> Checked.field entries ["id"] none Checked.optionalText
    <*> Checked.field entries ["name"] "" Checked.textOrEmpty
    <*> Checked.field entries ["type"] "" Checked.textOrEmpty
    <*> Checked.field entries ["value"] .null Checked.any

def ofValue : Value → Checked Variable :=
  Checked.model title ofEntries

end Variable

/-- A test that guards an event. Input conditions carry their key beside the parameters. -/
structure Condition where
  type : String
  key : Option String
  params : Params

namespace Condition

def title : String := "Condition"

def ofEntries (entries : List (Value × Value)) : Checked Condition :=
  mk <$> Checked.field entries ["type"] "" Checked.textOrEmpty
    <*> Checked.field entries ["key"] none Checked.optionalText
    <*> Checked.field entries ["params"] [] Checked.params

def ofValue : Value → Checked Condition :=
  Checked.model title ofEntries

end Condition

/-- An action that a trigger starts, guarded by conditions. -/
structure Event where
  id : Option String
  trigger : String
  triggerParams : Params
  conditionLogic : Option String
  conditions : List Condition
  action : Option String
  params : Params

namespace Event

/-- Whether one of the conditions is enough. -/
def usesOr (event : Event) : Bool :=
  Text.upper (Text.trim (event.conditionLogic.getD "")) == "OR"

def title : String := "Event"

def ofEntries (entries : List (Value × Value)) : Checked Event :=
  mk <$> Checked.field entries ["id"] none Checked.optionalText
    <*> Checked.field entries ["trigger"] "" Checked.textOrEmpty
    <*> Checked.field entries ["triggerParams", "trigger_params"] [] Checked.params
    <*> Checked.field entries ["conditionLogic", "condition_logic"] none Checked.optionalText
    <*> Checked.field entries ["conditions"] [] (Checked.listOf Condition.ofValue)
    <*> Checked.field entries ["action"] none Checked.optionalText
    <*> Checked.field entries ["params"] [] Checked.params

def ofValue : Value → Checked Event :=
  Checked.model title ofEntries

end Event

/-- A game object. Its placement is carried along and not interpreted. -/
structure Entity where
  id : String
  name : String
  type : Option String
  texture : Option String
  role : Option String
  tags : List String
  x : Value
  y : Value
  rotation : Value
  scaleX : Value
  scaleY : Value
  vars : List Variable
  events : List Event
  modules : List Module

namespace Entity

/-- Whether there is anything to generate code for. -/
def hasLogic (entity : Entity) : Bool :=
  !entity.modules.isEmpty || !entity.events.isEmpty || !entity.vars.isEmpty

/-- The first module with an id. -/
def module? (entity : Entity) (id : String) : Option Module :=
  entity.modules.find? fun module => module.id == id

def title : String := "EntityDefinition"

def ofEntries (entries : List (Value × Value)) : Checked Entity :=
  mk <$> Checked.required entries "id" Checked.text
    <*> Checked.field entries ["name"] "" Checked.textOrEmpty
    <*> Checked.field entries ["type"] none Checked.optionalText
    <*> Checked.field entries ["texture"] none Checked.optionalText
    <*> Checked.field entries ["role"] none Checked.optionalText
    <*> Checked.field entries ["tags"] [] (Checked.listOf Checked.text)
    <*> Checked.field entries ["x"] .null Checked.any
    <*> Checked.field entries ["y"] .null Checked.any
    <*> Checked.field entries ["rotation"] .null Checked.any
    <*> Checked.field entries ["scaleX", "scale_x"] .null Checked.any
    <*> Checked.field entries ["scaleY", "scale_y"] .null Checked.any
    <*> Checked.field entries ["variables"] [] (Checked.listOf Variable.ofValue)
    <*> Checked.field entries ["events"] [] (Checked.listOf Event.ofValue)
    <*> Checked.field entries ["modules"] [] (Checked.listOf Module.ofValue)

def ofValue : Value → Checked Entity :=
  Checked.model title ofEntries

end Entity

end GraphScript
