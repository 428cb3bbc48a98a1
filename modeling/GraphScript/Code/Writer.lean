import GraphScript.Text.Blank

namespace GraphScript

/-- A line of code, without its indentation. -/
structure Line where
  depth : Int
  text : String
deriving DecidableEq, Repr

/-- What is open around the place of writing. -/
inductive Frame where
  | block
  | indent
deriving DecidableEq, Repr

/-- One step of writing. -/
inductive Piece where
  | line (text : String)
  | comment (text : String)
  /-- Opens a braced block under an optional header line. -/
  | openBlock (header : Option String)
  /-- Goes one deeper without braces. -/
  | indent
  /-- Leaves what was opened last. -/
  | close
  /-- Marks that the code waits at this place. -/
  | suspend
deriving DecidableEq, Repr

structure Writer where
  depth : Int
  suspends : Bool
  frames : List Frame
  lines : Array Line
deriving Repr

namespace Writer

/-- A writer without lines. -/
def new (depth : Int) : Writer :=
  ⟨depth, false, [], #[]⟩

def line (w : Writer) (text : String) : Writer :=
  { w with lines := w.lines.push ⟨w.depth, text⟩ }

/-- A comment on one line, with single spaces between its words. -/
def comment (w : Writer) (text : String) : Writer :=
  w.line ("// " ++ Text.flatten text)

def enter (w : Writer) (frame : Frame) : Writer :=
  { w with depth := w.depth + 1, frames := frame :: w.frames }

def openBlock (w : Writer) (header : Option String) : Writer :=
  let w := match header with
    | some text => w.line text
    | none => w
  (w.line "\x7b").enter .block

/-- Leaves what was opened last; a block gets its closing brace. -/
def close (w : Writer) : Writer :=
  match w.frames with
  | [] => w
  | .block :: frames => { w with depth := w.depth - 1, frames := frames }.line "\x7d"
  | .indent :: frames => { w with depth := w.depth - 1, frames := frames }

def step (w : Writer) : Piece → Writer
  | .line text => w.line text
  | .comment text => w.comment text
  | .openBlock header => w.openBlock header
  | .indent => w.enter .indent
  | .close => w.close
  | .suspend => { w with suspends := true }

/-- Writes pieces one after another. -/
def run (w : Writer) (pieces : List Piece) : Writer :=
  pieces.foldl step w

/-- Writes pieces, and is back at the depth of the start even if they leave something open. -/
def play (w : Writer) (pieces : List Piece) : Writer :=
  { w.run pieces with depth := w.depth, frames := w.frames }

/-- The least depth of a line; without lines it is the current depth. -/
def baseDepth (w : Writer) : Int :=
  match w.lines.toList with
  | [] => w.depth
  | first :: rest => rest.foldl (fun least line => min least line.depth) first.depth

/-- Splices the lines of another writer in at the current depth. -/
def extend (w other : Writer) : Writer :=
  let shift := w.depth - other.baseDepth
  { w with
    suspends := w.suspends || other.suspends
    lines := w.lines ++ other.lines.map fun line => { line with depth := line.depth + shift } }

def isEmpty (w : Writer) : Bool :=
  w.lines.isEmpty

/-- Copies of a text one after another. -/
def times (count : Nat) (text : String) : String :=
  String.join (List.replicate count text)

/-- A line with its indentation; an empty line has none. -/
def renderLine (indent : String) (line : Line) : String :=
  if line.text = "" then "" else times line.depth.toNat indent ++ line.text

def rendered (w : Writer) (indent : String) : List String :=
  w.lines.toList.map (renderLine indent)

def render (w : Writer) (indent : String) : String :=
  "\n".intercalate (w.rendered indent)

end Writer

end GraphScript
