import AgentFlow.Error

/-!
# Workflow graphs

A graph is a workflow whose nodes have different ids.  Nodes and edges are looked up by id; an edge
may lead from or to a node that does not exist until the graph is checked.
-/

namespace AgentFlow.Workflow

structure Graph where
  workflow : Workflow
  distinct : (workflow.nodes.map Node.id).Nodup

/-- The ids that stand for an earlier node as well, once for each repetition. -/
def repeatedIds (seen : List Text) : List Text → List Text
  | [] => []
  | id :: rest =>
    if id ∈ seen then id :: repeatedIds seen rest else repeatedIds (id :: seen) rest

namespace Graph

def build (workflow : Workflow) : Except Error Graph :=
  if distinct : (workflow.nodes.map Node.id).Nodup then .ok ⟨workflow, distinct⟩
  else
    .error (.malformed
      ((repeatedIds [] (workflow.nodes.map Node.id)).map .duplicateNode) none)

def nodes (graph : Graph) : List Node := graph.workflow.nodes

def edges (graph : Graph) : List Edge := graph.workflow.edges

def nodeIds (graph : Graph) : List Text := graph.nodes.map Node.id

def entryId (graph : Graph) : Text := graph.workflow.entryId

def node? (graph : Graph) (id : Text) : Option Node := graph.nodes.find? (·.id = id)

def node (graph : Graph) (id : Text) : Except Error Node :=
  match graph.node? id with
  | some node => .ok node
  | none => .error (.problemOf id (.unknownNode id))

def edgesFrom (graph : Graph) (id : Text) : List Edge := graph.edges.filter (·.source = id)

def edge? (graph : Graph) (id : Text) (tag : Tag) : Option Edge :=
  (graph.edgesFrom id).find? (·.tag = tag)

def successor? (graph : Graph) (id : Text) (tag : Tag) : Option Text :=
  (graph.edge? id tag).map Edge.target

def sources (graph : Graph) : List Text :=
  Text.dedup (graph.nodeIds ++ graph.edges.map Edge.source)

def inputFields (graph : Graph) : Except ShapeFault (List Json) :=
  (graph.workflow.inputSchema.getOr "properties" (.obj [])).dictionaryKeys

/-- The fields of the input record that have a text as name. -/
def inputFieldNames (graph : Graph) : Except ShapeFault (List Text) := do
  let fields ← graph.inputFields
  return fields.filterMap fun field => match field with
    | .str name => some name
    | _ => none

end Graph

end AgentFlow.Workflow

namespace AgentFlow.Workflow.Graph

/-! ## Reachable nodes

A node is reachable from another if a sequence of edges leads to it.  Reachable nodes are found in
rounds: each one follows the edges of the nodes that the round before it found.  A round that finds
no new node is the last, so there are no more rounds than nodes.
-/

def targets (graph : Graph) (id : Text) : List Text :=
  ((graph.edgesFrom id).map Edge.target).filter (· ∈ graph.nodeIds)

/-- The ids that the edges of `fresh` ids lead to, those already `seen` left out. -/
def discover (graph : Graph) (seen fresh : List Text) : List Text :=
  Text.dedup ((fresh.flatMap graph.targets).filter (· ∉ seen))

/-- The ids seen after a number of rounds; `fresh` are those that the last round found. -/
def reachFrom (graph : Graph) : Nat → List Text → List Text → List Text
  | 0, seen, _ => seen
  | rounds + 1, seen, fresh =>
    match graph.discover seen fresh with
    | [] => seen
    | found => graph.reachFrom rounds (seen ++ found) found

/-- The ids reachable from an id, which is one of them. -/
def reachable (graph : Graph) (id : Text) : List Text :=
  graph.reachFrom graph.nodes.length [id] [id]

/-! ## Cycles that no loop closes

Once the edges into loop bodies are left out, a workflow graph has no cycles.  A depth-first search
reports every edge that leads back to a node on the current path.
-/

/-- The nodes that the edges of a node lead to, edges into loop bodies left out. -/
def onward (graph : Graph) (id : Text) : List Text :=
  ((graph.edgesFrom id).filter fun edge =>
    edge.tag ≠ .loopBody ∧ edge.target ∈ graph.nodeIds).map Edge.target

structure Search where
  entered : List Text := []
  cycles : List (List Text) := []

/-- The part of a path from a node on, and that node once more. -/
def cycleAt (path : List Text) (id : Text) : List Text := path.dropWhile (· ≠ id) ++ [id]

/-- Searches from a node that is entered now; `path` leads to it and does not hold it yet.  The fuel
bounds the length of paths. -/
def searchFrom (graph : Graph) : Nat → List Text → Search → Text → Search
  | 0, _, search, _ => search
  | fuel + 1, path, search, id =>
    let here := path ++ [id]
    (graph.onward id).foldl (fun search child =>
      if child ∈ here then { search with cycles := search.cycles ++ [cycleAt here child] }
      else if child ∈ search.entered then search
      else graph.searchFrom fuel here search child)
      { search with entered := search.entered ++ [id] }

/-- All cycles that the search finds, starting once at every node that is not entered yet. -/
def unlabeledCycles (graph : Graph) : List (List Text) :=
  (graph.nodeIds.foldl (fun search id =>
    if id ∈ search.entered then search else graph.searchFrom (graph.nodes.length + 1) [] search id)
    {}).cycles

end AgentFlow.Workflow.Graph
