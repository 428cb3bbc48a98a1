import GraphScript.Model.Checked

namespace GraphScript

structure Node where
  id : String
  kind : String
  action : Option String
  params : Params

/-- What a node does in a walk; kinds that are not known do nothing. -/
inductive NodeKind where
  | entry
  | action
  | condition
  | stop
  | other
deriving DecidableEq, Repr

def Node.role (node : Node) : NodeKind :=
  match node.kind with
  | "Entry" => .entry
  | "Action" => .action
  | "Condition" => .condition
  | "Stop" => .stop
  | _ => .other

/-- A connection of two ports; either end may be missing or dangling. -/
structure Edge where
  id : Option String
  source : Option String
  sourcePort : Option String
  target : Option String
  targetPort : Option String

/-- Nodes by id, and edges by the node that they leave. -/
structure GraphIndex where
  nodes : List (String × Node)
  edges : List (String × List Edge)

namespace GraphIndex

/-- Adds a node unless its id is taken. -/
def addNode (nodes : List (String × Node)) (node : Node) : List (String × Node) :=
  if nodes.any fun entry => entry.1 == node.id then nodes else nodes ++ [(node.id, node)]

/-- Appends an edge to the group of a source. -/
def appendTo (source : String) (edge : Edge) : List (String × List Edge) → List (String × List Edge)
  | [] => [(source, [edge])]
  | (key, group) :: rest =>
    if key = source then (key, group ++ [edge]) :: rest else (key, group) :: appendTo source edge rest

def addEdge (groups : List (String × List Edge)) (edge : Edge) : List (String × List Edge) :=
  match edge.source with
  | some source => appendTo source edge groups
  | none => groups

def build (nodes : List Node) (edges : List Edge) : GraphIndex :=
  ⟨nodes.foldl addNode [], edges.foldl addEdge []⟩

def node? (index : GraphIndex) (id : String) : Option Node :=
  index.nodes.lookup id

def outgoing (index : GraphIndex) (id : String) : List Edge :=
  (index.edges.lookup id).getD []

end GraphIndex

structure Module where
  id : String
  name : String
  entryNodeId : Option String
  nodes : List Node
  edges : List Edge
  index : GraphIndex
  indexed : index = GraphIndex.build nodes edges

namespace Module

/-- A module with its index. -/
def make (id name : String) (entryNodeId : Option String) (nodes : List Node) (edges : List Edge) :
    Module :=
  ⟨id, name, entryNodeId, nodes, edges, GraphIndex.build nodes edges, rfl⟩

/-- The first node with an id. -/
def node? (module : Module) (id : String) : Option Node :=
  module.index.node? id

/-- The edges that leave a node, in order. -/
def outgoing (module : Module) (id : String) : List Edge :=
  module.index.outgoing id

/-- Where a walk starts: the node named as the entry, or else the first entry node. -/
def entryNode? (module : Module) : Option Node :=
  match module.entryNodeId.bind module.node? with
  | some node => some node
  | none => module.nodes.find? fun node => node.role == .entry

/-- The name that messages give to a module. -/
def label (module : Module) : String :=
  if module.name = "" then module.id else module.name

end Module

namespace Node

def ofEntries (entries : List (Value × Value)) : Checked Node :=
  mk <$> Checked.required entries "id" Checked.text
    <*> Checked.field entries ["kind"] "" Checked.textOrEmpty
    <*> Checked.field entries ["action"] none Checked.optionalText
    <*> Checked.field entries ["params"] [] Checked.params

def title : String := "Node"

def ofValue : Value → Checked Node :=
  Checked.model title ofEntries

end Node

namespace Edge

def ofEntries (entries : List (Value × Value)) : Checked Edge :=
  mk <$> Checked.field entries ["id"] none Checked.optionalText
    <*> Checked.field entries ["fromNodeId", "from_node_id"] none Checked.optionalText
    <*> Checked.field entries ["fromPort", "from_port"] none Checked.optionalText
    <*> Checked.field entries ["toNodeId", "to_node_id"] none Checked.optionalText
    <*> Checked.field entries ["toPort", "to_port"] none Checked.optionalText

def title : String := "Edge"

def ofValue : Value → Checked Edge :=
  Checked.model title ofEntries

end Edge

namespace Module

def ofEntries (entries : List (Value × Value)) : Checked Module :=
  make <$> Checked.field entries ["id"] "" Checked.textOrEmpty
    <*> Checked.field entries ["name"] "" Checked.textOrEmpty
    <*> Checked.field entries ["entryNodeId", "entry_node_id"] none Checked.optionalText
    <*> Checked.field entries ["nodes"] [] (Checked.listOf Node.ofValue)
    <*> Checked.field entries ["edges"] [] (Checked.listOf Edge.ofValue)

def title : String := "Module"

def ofValue : Value → Checked Module :=
  Checked.model title ofEntries

end Module

end GraphScript
