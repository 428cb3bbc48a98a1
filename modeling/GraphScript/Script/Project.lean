import GraphScript.Model.Project
import GraphScript.Script.Class

namespace GraphScript

namespace Artifact

/-- How many lines the source has. -/
def lineCount (a : Artifact) : Nat :=
  a.source.toList.count '\n'

/-- The record of an artifact. -/
def record (a : Artifact) : Params :=
  [("type", .text "artifact"), ("entity_id", .text a.entityId), ("class_name", .text a.className),
   ("file_name", .text a.fileName), ("lines", .int a.lineCount),
   ("animations", .list (a.animations.map .text))]

/-- The record of two entities with one class name. -/
def collisionRecord (earlier : String) (a : Artifact) : Params :=
  [("type", .text "collision"), ("class_name", .text a.className),
   ("entity_ids", .list [.text earlier, .text a.entityId])]

end Artifact

/-- Reports that an earlier artifact has the same class name. -/
def reportCollision (earlier : String) (a : Artifact) : Lowered Unit := do
  Lowered.note "importer" .warning
    ("Entities " ++ earlier ++ " and " ++ a.entityId ++ " both compile to " ++ a.fileName ++ "; " ++
      a.entityId ++ " overwrites the earlier file")
  Lowered.perform (.record (a.collisionRecord earlier))

/-- The entity of the latest artifact with a class name. -/
def owner? (earlier : List Artifact) (className : String) : Option String :=
  (earlier.reverse.find? fun a => a.className == className).map Artifact.entityId

/-- Compiles entities one after another; `earlier` holds the artifacts made before. -/
def compileEntities (config : Config) (earlier : List Artifact) :
    List Entity → Lowered (List Artifact)
  | [] => return earlier
  | entity :: rest => do
    match ← assemble config entity with
    | none => compileEntities config earlier rest
    | some a =>
      match owner? earlier a.className with
      | some owner => reportCollision owner a
      | none => pure ()
      Lowered.perform (.record a.record)
      compileEntities config (earlier ++ [a]) rest

/-- Whether an entity passes a filter of ids. -/
def isWanted (wanted : Option (List String)) (entity : Entity) : Bool :=
  match wanted with
  | some ids => ids.contains entity.id
  | none => true

/-- The wanted ids that no entity has. -/
def missingIds (wanted : Option (List String)) (project : Project) : List String :=
  let found := project.entities.map Entity.id
  Facts.distinct ((wanted.getD []).filter fun id => !found.contains id)

/-- Compiles the wanted entities of a project, in order. -/
def compileProject (config : Config) (wanted : Option (List String)) (project : Project) :
    Lowered (List Artifact) := do
  let artifacts ← compileEntities config [] (project.entities.filter (isWanted wanted))
  (missingIds wanted project).forM fun id =>
    Lowered.note "importer" .warning ("Entity " ++ id ++ " not found in payload")
  Lowered.note "importer" .info ("Compiled " ++ toString artifacts.length ++ " artifact(s)")
  return artifacts

/-- What is to be attached to each entity. -/
def manifest (artifacts : List Artifact) : Value :=
  let entries := artifacts.map fun a =>
    (Value.text a.entityId,
      Value.record [("class_name", .text a.className), ("file_name", .text a.fileName),
        ("animations", .list (a.animations.map .text))])
  .record [("version", .int 1), ("entities", .ofEntries entries)]

end GraphScript
