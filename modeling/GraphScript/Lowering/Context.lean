import GraphScript.CSharp.Identifier
import GraphScript.Config.Basic
import GraphScript.Lowering.Effect
import GraphScript.Lowering.Service
import GraphScript.Model.Entity

namespace GraphScript

structure Context where
  entity : Entity
  config : Config
  /-- The type of each field, by identifier. -/
  types : List (String × FieldType)
  /-- The identifier of each variable, by its name in the editor. -/
  names : List (String × String)

namespace Context

/-- Adds the field of a variable unless its identifier is taken. -/
def declare (ctx : Context) (v : Variable) : Context :=
  let ident := CSharp.sanitize v.name
  if (ctx.types.lookup ident).isSome then ctx
  else
    { ctx with
      types := ctx.types ++ [(ident, v.fieldType)]
      names := if (ctx.names.lookup v.name).isSome then ctx.names else ctx.names ++ [(v.name, ident)] }

def of (entity : Entity) (config : Config) : Context :=
  entity.vars.foldl declare ⟨entity, config, [], []⟩

/-- The identifier of a variable given by its name in the editor. -/
def identifier (ctx : Context) (name : String) : String :=
  (ctx.names.lookup name).getD (CSharp.sanitize name)

/-- Whether a text names a declared variable. -/
def isVariable (ctx : Context) (name : String) : Bool :=
  (ctx.names.lookup name).isSome || (ctx.types.lookup name).isSome

/-- The type of a field; the health field is a float unless it is declared. -/
def typeOf (ctx : Context) (ident : String) : Option FieldType :=
  match ctx.types.lookup ident with
  | some type => some type
  | none => if ident = ctx.config.healthField then some .float else none

def declaresHealth (ctx : Context) : Bool :=
  (ctx.types.lookup ctx.config.healthField).isSome

/-- The health field, noted as used. -/
def health (ctx : Context) : Lowered String := do
  Lowered.perform .useHealth
  return ctx.config.healthField

/-- A length in pixels as a length in the world. -/
def world (ctx : Context) (pixels : Binary64) : Binary64 :=
  pixels.div ctx.config.pixelsPerUnit

/-- Notes what static calls of a service need. -/
def needService (ctx : Context) (service : Lowered Service) : Lowered Service :=
  match ctx.config.serviceMode with
  | .context => service
  | .static => do
    Lowered.perform (.needNamespace ctx.config.runtimeNamespace)
    let service ← service
    service.namespaces.forM fun name => Lowered.perform (.needNamespace name)
    return service

/-- A call of a service, noted with what it needs. -/
def call (ctx : Context) (c : ServiceCall) : Lowered String := do
  let _ ← ctx.needService (pure c.service)
  return c.render ctx.config.serviceMode

/-- A call of a service given by name, with named arguments. -/
def callNamed (ctx : Context) (name : String) (args : List (String × String)) : Lowered String := do
  let service ← ctx.needService (.ofExcept (Service.named name))
  let c ← Lowered.ofExcept (service.withArguments args)
  return c.render ctx.config.serviceMode

end Context

end GraphScript
