import AgentFlow.Schema.Check
import AgentFlow.Workflow.Graph

/-!
# Checking workflow graphs

A graph is well formed if its entry is a start node, the text field of its input is declared, its
edges join nodes, every node has exactly the outgoing tags that its kind requires and is reachable,
and only loops close cycles.  All problems are collected before any is reported.
-/

namespace AgentFlow

def checkSchema (value : Json) (context : Text) : Except Error Unit :=
  match value with
  | .obj entries => do
    let dialect ← liftShape (Schema.dialectOf entries)
    match (Schema.check dialect (.obj entries)).head? with
    | some ⟨_, .unusablePattern defect⟩ => .error (.breakdown (.pattern defect))
    | some violation => .error (.schema context (.invalid violation))
    | none => .ok ()
  | _ => .error (.schema context .notObject)

namespace Workflow

/-- The tags that the outgoing edges of a node must have, each of them once. -/
def requiredTags (node : Node) : List Tag :=
  match node.config with
  | .finish _ => []
  | .loop _ => [.loopBody, .loopExit]
  | .approval _ => [.approve, .reject]
  | .branch conditions => (List.range conditions.length).map .case ++ [.no]
  | _ => [.plain]

/-- The tag that an edge of a node counts as: the only case of a branch may be tagged as true. -/
def normalizedTag (node : Node) (tag : Tag) : Tag :=
  match node.config with
  | .branch [_] => if tag = .yes then .case 0 else tag
  | _ => tag

def sortTags (tags : List Tag) : List Tag := tags.mergeSort fun a b => Text.le a.text b.text

def tagProblems (graph : Graph) (node : Node) : List Problem :=
  let edges := graph.edgesFrom node.id
  let tags := edges.map fun edge => normalizedTag node edge.tag
  let repeated := (sortTags tags.eraseDups).filterMap fun tag =>
    if 1 < tags.count tag then some (.repeatedTag node.id (tags.count tag) tag) else none
  match node.config with
  | .branch [] => repeated ++ [.noCases node.id]
  | _ =>
    if node.kind.isLinear && tags.isEmpty then repeated
    else
      let expected := requiredTags node
      let missing := (sortTags (expected.filter (· ∉ tags))).map fun tag =>
        Problem.missingTag node.id node.kind tag
      let invalid := (edges.filter fun edge => normalizedTag node edge.tag ∉ expected).map
        fun edge => Problem.invalidTag edge node.kind
      repeated ++ missing ++ invalid

def entryProblems (graph : Graph) : List Problem :=
  match graph.node? graph.entryId with
  | none => [.missingEntry graph.entryId]
  | some node => if node.kind = .start then [] else [.entryNotStart node.id node.kind]

def edgeProblems (graph : Graph) : List Problem :=
  graph.edges.flatMap fun edge =>
    (if edge.source ∈ graph.nodeIds then [] else [Problem.unknownSource edge]) ++
      (if edge.target ∈ graph.nodeIds then [] else [Problem.unknownTarget edge])

/-- The nodes that the entry does not reach, if there is an entry. -/
def reachProblems (graph : Graph) : List Problem :=
  if graph.entryId ∈ graph.nodeIds then
    let reached := graph.reachable graph.entryId
    (graph.nodeIds.filter (· ∉ reached)).map fun id => .unreachable id graph.entryId
  else []

def problems (graph : Graph) (fields : List Text) : List Problem :=
  entryProblems graph ++
    (if graph.workflow.inputTextField ∈ fields then []
      else [.undeclaredTextField graph.workflow.inputTextField]) ++
    edgeProblems graph ++ graph.nodes.flatMap (tagProblems graph) ++ reachProblems graph ++
    graph.unlabeledCycles.map .cycle

def validate (graph : Graph) : Except Error Unit := do
  let fields ← liftShape graph.inputFieldNames
  match problems graph fields with
  | [] => checkSchema (.obj graph.workflow.inputSchema) "input_schema"
  | found => .error (.malformed found none)

end Workflow

end AgentFlow
