import GraphScript.Lowering.Walk

namespace GraphScript

namespace GraphIndex

theorem any_eq_lookup_isSome (nodes : List (String × Node)) (id : String) :
    (nodes.any fun entry => entry.1 == id) = (nodes.lookup id).isSome := by
  induction nodes with
  | nil => rfl
  | cons entry rest ih =>
    rw [List.any_cons, List.lookup_cons, ih, Bool.beq_comm]
    cases id == entry.1 <;> rfl

theorem lookup_addNode (nodes : List (String × Node)) (node : Node) (id : String) :
    (addNode nodes node).lookup id =
      (nodes.lookup id).or (if node.id == id then some node else none) := by
  unfold addNode
  rw [any_eq_lookup_isSome]
  by_cases same : node.id = id
  · subst same
    cases found : nodes.lookup node.id <;> simp [found, List.lookup_append]
  · have other : (id == node.id) = false := beq_false_of_ne fun h => same h.symm
    split
    next => simp [same]
    next => simp [same, other, List.lookup_append, List.lookup_cons]

theorem lookup_foldl_addNode (nodes : List Node) (taken : List (String × Node)) (id : String) :
    (nodes.foldl addNode taken).lookup id =
      (taken.lookup id).or (nodes.find? fun node => node.id == id) := by
  induction nodes generalizing taken with
  | nil => simp
  | cons node nodes ih =>
    rw [List.foldl_cons, ih, lookup_addNode, List.find?_cons]
    cases node.id == id <;> simp

/-- The edges that are filed under an id. -/
def filed (groups : List (String × List Edge)) (id : String) : List Edge :=
  (groups.lookup id).getD []

theorem filed_appendTo (source : String) (edge : Edge) (groups : List (String × List Edge))
    (id : String) :
    filed (appendTo source edge groups) id =
      filed groups id ++ if source = id then [edge] else [] := by
  induction groups with
  | nil =>
    by_cases same : source = id
    · simp [appendTo, filed, same]
    · have other : (id == source) = false := beq_false_of_ne fun h => same h.symm
      simp [appendTo, filed, List.lookup_cons, same, other]
  | cons entry rest ih =>
    obtain ⟨key, group⟩ := entry
    unfold filed at ih ⊢
    unfold appendTo
    split
    next here =>
      subst here
      rw [List.lookup_cons, List.lookup_cons]
      by_cases same : key = id
      · simp [same]
      · have other : (id == key) = false := beq_false_of_ne fun h => same h.symm
        simp [same, other]
    next later =>
      rw [List.lookup_cons, List.lookup_cons]
      by_cases same : id = key
      · simp [same, Ne.symm later]
      · have other : (id == key) = false := beq_false_of_ne same
        rw [other]
        exact ih

theorem filed_addEdge (groups : List (String × List Edge)) (edge : Edge) (id : String) :
    filed (addEdge groups edge) id =
      filed groups id ++ if edge.source == some id then [edge] else [] := by
  unfold addEdge
  split
  next source leaves =>
    rw [filed_appendTo, leaves]
    simp
  next loose =>
    rw [loose]
    simp

theorem filed_foldl_addEdge (edges : List Edge) (groups : List (String × List Edge)) (id : String) :
    filed (edges.foldl addEdge groups) id =
      filed groups id ++ edges.filter fun edge => edge.source == some id := by
  induction edges generalizing groups with
  | nil => simp
  | cons edge edges ih =>
    rw [List.foldl_cons, ih, filed_addEdge, List.filter_cons, List.append_assoc]
    cases edge.source == some id <;> rfl

end GraphIndex

namespace Module

/-- Looking up a node in the index finds the first node of the module with the id. -/
theorem node?_eq_find? (module : Module) (id : String) :
    module.node? id = module.nodes.find? fun node => node.id == id := by
  unfold node? GraphIndex.node?
  rw [module.indexed]
  exact GraphIndex.lookup_foldl_addNode module.nodes [] id

/-- The edges that leave a node are those of the module, in their order. -/
theorem outgoing_eq_filter (module : Module) (id : String) :
    module.outgoing id = module.edges.filter fun edge => edge.source == some id := by
  unfold outgoing GraphIndex.outgoing
  rw [module.indexed]
  exact GraphIndex.filed_foldl_addEdge module.edges [] id

theorem successorBy?_eq_bind (module : Module) (node : Node) (ports : List String) :
    module.successorBy? node ports =
      ((module.outgoing node.id).find? (Edge.leavesBy ports)).bind fun edge =>
        edge.target.bind module.node? := by
  unfold successorBy?
  cases (module.outgoing node.id).find? (Edge.leavesBy ports) <;> rfl

theorem node?_mem {module : Module} {id : String} {node : Node} (h : module.node? id = some node) :
    node ∈ module.nodes := by
  rw [node?_eq_find?] at h
  exact List.mem_of_find?_eq_some h

theorem successor?_mem {module : Module} {node next : Node} {ports : Ports}
    (h : module.successor? node ports = some next) : next ∈ module.nodes := by
  rw [successor?, successorBy?_eq_bind] at h
  obtain ⟨edge, -, h⟩ := Option.bind_eq_some_iff.mp h
  obtain ⟨id, -, hn⟩ := Option.bind_eq_some_iff.mp h
  exact node?_mem hn

theorem entryNode?_mem {module : Module} {node : Node} (h : module.entryNode? = some node) :
    node ∈ module.nodes := by
  unfold entryNode? at h
  split at h
  next entry he =>
    cases h
    obtain ⟨id, -, hn⟩ := Option.bind_eq_some_iff.mp he
    exact node?_mem hn
  next => exact List.mem_of_find?_eq_some h

/-- What the index of a module finds is what a search through its lists finds, whatever these are: the
first node with an id, the edges that leave a node in their order, and behind a node the target of the
first of all edges that leaves it by one of the ports. If this edge leads nowhere there is no next node,
even if a later edge leads to one. -/
theorem index_finds_as_search (module : Module) :
    (∀ id, module.node? id = module.nodes.find? fun node => node.id == id) ∧
    (∀ id, module.outgoing id = module.edges.filter fun edge => edge.source == some id) ∧
    ∀ node ports, module.successorBy? node ports =
      (module.edges.find? fun edge => edge.source == some node.id &&
        ports.contains (Text.lower (Text.trim (edge.sourcePort.getD "")))).bind fun edge =>
          edge.target.bind fun id => module.nodes.find? fun next => next.id == id := by
  refine ⟨module.node?_eq_find?, module.outgoing_eq_filter, fun node ports => ?_⟩
  have searched : module.node? = fun id => module.nodes.find? fun next => next.id == id :=
    funext module.node?_eq_find?
  rw [successorBy?_eq_bind, outgoing_eq_filter, List.find?_filter, searched]
  simp only [Bool.decide_and, Bool.decide_eq_true]
  rfl

/-- The second node with the same id is never found, and the first way out leads nowhere. -/
example :
    let way (port target : String) : Edge := ⟨none, some "in", some port, some target, none⟩
    let module := make "patrol" "" none
      [⟨"in", "Entry", none, []⟩, ⟨"walk", "Action", some "Move", []⟩, ⟨"walk", "Stop", none, []⟩]
      [⟨none, none, some "out", some "walk", none⟩, way " OUT " "gone", way "next" "walk",
       way "next" "walk"]
    (module.node? "walk").map Node.kind = some "Action" ∧ (module.outgoing "in").length = 3 ∧
      (module.nodes.head?.bind fun node => module.successorBy? node ["out", "next"]).isNone ∧
      (module.nodes.head?.bind fun node => module.successorBy? node ["next"]).map Node.kind =
        some "Action" := by
  decide

end Module

end GraphScript
