import GraphScript.Value.Display

namespace GraphScript.Shape

def isText : Value → Bool
  | .text _ => true
  | _ => false

def isTextOrNull : Value → Bool
  | .text _ => true
  | .null => true
  | _ => false

/-- A text or a number. -/
def isIdentifier : Value → Bool
  | .text _ => true
  | .int _ => true
  | .float _ => true
  | _ => false

/-- An integer, also written with a fraction of zero, or null. -/
def isIntegerOrNull : Value → Bool
  | .int _ => true
  | .float x => x.isInteger
  | .null => true
  | _ => false

def isMapOrNull : Value → Bool
  | .map _ => true
  | .null => true
  | _ => false

/-- A list of items of a shape, or null. -/
def isListOrNull (item : Value → Bool) : Value → Bool
  | .list items => items.all item
  | .null => true
  | _ => false

def anything (_ : Value) : Bool :=
  true

/-- A map whose known keys have the given shapes. -/
def isMap (known : List (String × (Value → Bool))) : Value → Bool
  | .map entries => known.all fun (key, shape) =>
    match Value.find? key entries with
    | some value => shape value
    | none => true
  | _ => false

def hasKey (key : String) : Value → Bool
  | .map entries => (Value.find? key entries).isSome
  | _ => false

def isVariable : Value → Bool :=
  isMap [("id", isTextOrNull), ("name", isTextOrNull), ("type", isTextOrNull)]

def isCondition : Value → Bool :=
  isMap [("type", isTextOrNull), ("key", isTextOrNull), ("params", isMapOrNull)]

def isEvent : Value → Bool :=
  isMap
    [("id", isTextOrNull), ("trigger", isTextOrNull), ("triggerParams", isMapOrNull),
     ("conditionLogic", isTextOrNull), ("conditions", isListOrNull isCondition),
     ("action", isTextOrNull), ("params", isMapOrNull)]

def isNode (value : Value) : Bool :=
  hasKey "id" value &&
    isMap [("id", isText), ("kind", isTextOrNull), ("action", isTextOrNull), ("params", isMapOrNull)]
      value

def isEdge : Value → Bool :=
  isMap
    [("id", isTextOrNull), ("fromNodeId", isTextOrNull), ("fromPort", isTextOrNull),
     ("toNodeId", isTextOrNull), ("toPort", isTextOrNull)]

def isModule : Value → Bool :=
  isMap
    [("id", isTextOrNull), ("name", isTextOrNull), ("entryNodeId", isTextOrNull),
     ("nodes", isListOrNull isNode), ("edges", isListOrNull isEdge)]

def isEntity (value : Value) : Bool :=
  hasKey "id" value &&
    isMap
      [("id", isIdentifier), ("name", isTextOrNull), ("texture", isTextOrNull),
       ("role", isTextOrNull), ("tags", isListOrNull isText),
       ("variables", isListOrNull isVariable), ("events", isListOrNull isEvent),
       ("modules", isListOrNull isModule)]
      value

def isScene : Value → Bool :=
  isMap
    [("id", isTextOrNull), ("sceneId", isTextOrNull), ("name", isTextOrNull),
     ("entities", isListOrNull isEntity)]

def isProject (value : Value) : Bool :=
  hasKey "scenes" value &&
    isMap
      [("formatVersion", isIntegerOrNull), ("activeSceneId", isTextOrNull),
       ("projectType", isTextOrNull), ("scenes", isListOrNull isScene),
       ("assets", isListOrNull anything)]
      value

def isEntityList (value : Value) : Bool :=
  hasKey "entities" value && !hasKey "scenes" value &&
    isMap [("entities", isListOrNull isEntity)] value

/-- Whether a document has one of the three shapes. -/
def isPayload (value : Value) : Bool :=
  isProject value || isEntityList value || isEntity value

/-- The complaints about a document, at most one. -/
def complaints (value : Value) : List String :=
  if isPayload value then []
  else ["<root>: " ++ value.quoted ++ " is not valid under any of the given schemas"]

end GraphScript.Shape
