import GraphScript.Text.Case

namespace GraphScript

namespace Files

/-- Where a path starts. -/
inductive Start where
  /-- At the working directory. -/
  | relative
  /-- At the root. -/
  | root
  /-- At the root, written with two slashes. -/
  | doubleRoot
deriving DecidableEq, Repr

structure Path where
  start : Start
  parts : List String
deriving DecidableEq, Repr

namespace Path

/-- The pieces of a text between slashes; `piece` holds the characters since the last one, the
latest first. -/
def piecesFrom (piece : List Char) : List Char → List String
  | [] => [String.ofList piece.reverse]
  | c :: rest =>
    if c = '/' then String.ofList piece.reverse :: piecesFrom [] rest
    else piecesFrom (c :: piece) rest

/-- Exactly two slashes in front are kept apart from one. -/
def startOf (text : String) : Start :=
  match (text.toList.takeWhile (· == '/')).length with
  | 0 => .relative
  | 2 => .doubleRoot
  | _ => .root

def ofText (text : String) : Path :=
  ⟨startOf text, (piecesFrom [] text.toList).filter fun part => part != "" && part != "."⟩

/-- The text of a path; the path with no parts is a dot. -/
def text (path : Path) : String :=
  let joined := "/".intercalate path.parts
  match path.start with
  | .relative => if path.parts.isEmpty then "." else joined
  | .root => "/" ++ joined
  | .doubleRoot => "//" ++ joined

/-- A path seen from another; one that starts at the root stays. -/
def join (base path : Path) : Path :=
  if path.start = .relative then { base with parts := base.parts ++ path.parts } else path

def parent (path : Path) : Path :=
  { path with parts := path.parts.dropLast }

/-- The last part. -/
def name (path : Path) : String :=
  path.parts.getLastD ""

/-- What follows the last dot of the name, with the dot; a dot at either end of the name is none. -/
def suffix (path : Path) : String :=
  let cs := path.name.toList
  let after := (cs.reverse.takeWhile (· != '.')).reverse
  if after.isEmpty ∨ cs.length ≤ after.length + 1 then ""
  else String.ofList ('.' :: after)

/-- Whether the name says that the file holds JSON. -/
def isJson (path : Path) : Bool :=
  Text.lower path.suffix == ".json"

end Path

end Files

end GraphScript
