import GraphScript.Model.Entity

namespace GraphScript

structure Scene where
  id : Option String
  sceneId : Option String
  name : String
  entities : List Entity

namespace Scene

/-- The identifier of a scene; an empty one counts as missing. -/
def key (scene : Scene) : Option String :=
  match scene.sceneId with
  | some id => if id = "" then scene.id else some id
  | none => scene.id

def title : String := "Scene"

def ofEntries (entries : List (Value × Value)) : Checked Scene :=
  mk <$> Checked.field entries ["id"] none Checked.optionalText
    <*> Checked.field entries ["sceneId", "scene_id"] none Checked.optionalText
    <*> Checked.field entries ["name"] "" Checked.textOrEmpty
    <*> Checked.field entries ["entities"] [] (Checked.listOf Entity.ofValue)

def ofValue : Value → Checked Scene :=
  Checked.model title ofEntries

/-- A scene that only holds entities. -/
def ofEntities (entities : List Entity) : Scene :=
  ⟨none, none, "", entities⟩

end Scene

structure Project where
  formatVersion : Option Int
  activeSceneId : Option String
  projectType : Option String
  scenes : List Scene
  assets : List Value

/-- The complaints about a document, and the model that it was read as. -/
structure Rejection where
  title : String
  issues : List Issue

/-- A fault that stands in place of the complaints. -/
def Rejection.fault? (r : Rejection) : Option Fault :=
  r.issues.findSome? Issue.fault

/-- A checked value, or its rejection under the title of a model. -/
def Checked.orReject {α : Type} (title : String) : Checked α → Except Rejection α
  | good a => .ok a
  | bad issues => .error ⟨title, issues⟩

namespace Project

/-- All entities of all scenes, in order. -/
def entities (project : Project) : List Entity :=
  project.scenes.flatMap Scene.entities

def title : String := "ProjectData"

def ofEntries (entries : List (Value × Value)) : Checked Project :=
  mk <$> Checked.field entries ["formatVersion", "format_version"] none Checked.optionalInteger
    <*> Checked.field entries ["activeSceneId", "active_scene_id"] none Checked.optionalText
    <*> Checked.field entries ["projectType", "project_type"] none Checked.optionalText
    <*> Checked.field entries ["scenes"] [] (Checked.listOf Scene.ofValue)
    <*> Checked.field entries ["assets"] [] (Checked.listOf Checked.any)

def ofValue : Value → Checked Project :=
  Checked.model title ofEntries

/-- A project that only holds one scene. -/
def ofScene (scene : Scene) : Project :=
  ⟨none, none, none, [scene], []⟩

/-- A project from a document: a whole project, a list of entities, or one entity. -/
def ofPayload (entries : List (Value × Value)) : Except Rejection Project :=
  if (Value.find? "scenes" entries).isSome then (ofEntries entries).orReject title
  else
    match Value.find? "entities" entries with
    | some entities => do
      let scene ← (Scene.ofEntries [(.text "entities", entities)]).orReject Scene.title
      return ofScene scene
    | none => do
      let entity ← (Entity.ofEntries entries).orReject Entity.title
      return ofScene (.ofEntities [entity])

end Project

end GraphScript
