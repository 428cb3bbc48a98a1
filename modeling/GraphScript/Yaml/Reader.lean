import GraphScript.Yaml.Node

namespace GraphScript.Yaml

/-- A text for a key that stands for the default; other scalars as they are. -/
def keyTag : Tag → Tag
  | .default => .text
  | tag => tag

mutual

/-- The entries that a mapping merges, and its own. -/
def flatten : List (Node × Node) → Except Issue (List (Node × Node) × List (Node × Node))
  | [] => .ok ([], [])
  | (key, value) :: rest =>
    match key with
    | .scalar .merge _ => do
      let more ← mergeEntries value
      let (merged, own) ← flatten rest
      return (more ++ merged, own)
    | _ => do
      let (merged, own) ← flatten rest
      return (merged, (key, value) :: own)

/-- The entries that a mapping, or a list of mappings, gives to the one that merges it; of several
mappings the first wins, so it comes last. -/
def mergeEntries : Node → Except Issue (List (Node × Node))
  | .mapping _ entries => do
    let (merged, own) ← flatten entries
    return merged ++ own
  | .sequence _ items => mergeItems items
  | .scalar _ _ => .error .badMerge

def mergeItems : List Node → Except Issue (List (Node × Node))
  | [] => .ok []
  | item :: rest =>
    match item with
    | .mapping _ entries => do
      let (merged, own) ← flatten entries
      let later ← mergeItems rest
      return later ++ (merged ++ own)
    | _ => .error .badMerge

end

/-- The value of a key; a collection is none. -/
def keyValue : Node → Except Issue Value
  | .scalar tag text => (keyTag tag).scalarValue text
  | _ => .error .unhashableKey

/-- Refuses a node for what can be seen without looking at its parts. -/
def checkNode : Node → Except Issue Unit
  | .scalar tag text => (tag.scalarValue text).map fun _ => ()
  | .sequence tag _ =>
    match tag with
    | .sequence => .ok ()
    | .unknown => .error .unknownTag
    | _ => .error .wrongKind
  | .mapping tag _ =>
    match tag with
    | .mapping => .ok ()
    | .unknown => .error .unknownTag
    | _ => .error .wrongKind

/-- The parts of a node, each of them checked by itself. -/
def parts : Node → Except Issue (List Node)
  | .scalar _ _ => .ok []
  | .sequence _ items => items.mapM fun item => do
    checkNode item
    return item
  | .mapping _ entries => do
    let (merged, own) ← flatten entries
    (merged ++ own).mapM fun (key, value) => do
      let _ ← keyValue key
      checkNode value
      return value

/-- Refuses the first node that is wrong, level by level from the outside. No node is deeper than
`depth`. -/
def checkLevels : Nat → List Node → Except Issue Unit
  | 0, _ => .ok ()
  | depth + 1, level => do
    let inner ← level.mapM parts
    checkLevels depth inner.flatten

/-- The value of a node that is no deeper than `depth`. -/
def construct : Nat → Node → Except Issue Value
  | 0, _ => .error .unexpectedEnd
  | depth + 1, node =>
    match node with
    | .scalar tag text => tag.scalarValue text
    | .sequence _ items => do return .list (← items.mapM (construct depth))
    | .mapping _ entries => do
      let (merged, own) ← flatten entries
      let entries ← (merged ++ own).mapM fun (key, value) => do
        return (← keyValue key, ← construct depth value)
      return .ofEntries entries

/-- Reads a document; an empty text is null. -/
def read (text : String) : Except Issue Value := do
  let tokens ← Token.scan text.toList
  match ← Node.ofTokens tokens with
  | some node =>
    let depth := tokens.length + 1
    checkNode node
    checkLevels depth [node]
    construct depth node
  | none => return .null

end GraphScript.Yaml
