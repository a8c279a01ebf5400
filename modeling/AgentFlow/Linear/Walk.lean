import AgentFlow.Emit.Path
import AgentFlow.Workflow.Graph

/-!
# From a graph to nested statements

The walk starts at the entry and follows the edges.  At each node it calls the emitter, looks up the
edges that the node leads on by, and walks along them one after the other.  Every node is entered
once, apart from ends and loops.  The emitter is a parameter, with a state of its own.
-/

namespace AgentFlow.Linear

open Workflow Emit

/-! ## Routes

What a walk through a graph leaves behind: a tree whose nodes are the calls of the emitter and whose
branches are the ways that the walk went on from there.  A way ends where no edge leads on, or where
it is back at the loop that it is in.  The statements of a route follow from the tree alone: a chain
becomes a sequence, a branch or a loop holds the statements of its ways, and a gate puts the rest of
its path into a guarded block.
-/

structure Call where
  node : Node
  path : Path
  emission : Emission

/-- How a walk arrives at a node: it starts there, or it follows an edge. -/
inductive Arrival where
  | start (id : Text)
  | via (edge : Edge)

def Arrival.id : Arrival → Text
  | start id => id
  | via edge => edge.target

/-- What a walk does from a point on.  It stops where no edge leads on, it is back at the loop that
it is in, or it visits a node and goes on from there, one way after the other. -/
inductive Route where
  | stop (path : Path)
  | back (arrival : Arrival)
  | visit (arrival : Arrival) (call : Call) (ways : List Route)

/-- The statements of a call, given those of the ways on from its node.  The last way of a branch is
the one for the case that no condition holds; a loop has its body before what follows it; and an
approval has the way of a rejected run after that of an approved one. -/
def Call.assemble (call : Call) (ways : List Block) : Block :=
  call.emission.statements ++
    match call.node.config with
    | .finish _ => []
    | .branch _ => [.branch (call.emission.conditions.zip ways) ways.getLast?]
    | .loop _ => .loop (call.emission.conditions.headD []) (ways.headD []) :: ways.getLastD []
    | config =>
      match call.emission.gate with
      | none => ways.headD []
      | some gate =>
        let fallback : Block := match config with
          | .approval _ => ways.getLastD []
          | _ => [.ret (orWorkflow gate.fallback)]
        [.guard gate.condition (ways.headD []) fallback gate.continueWhen]

namespace Route

mutual

def block : Route → Block
  | .stop path => [.ret path.current]
  | .back _ => []
  | .visit _ call ways => call.assemble (blocks ways)

def blocks : List Route → List Block
  | [] => []
  | way :: rest => way.block :: blocks rest

end

end Route

/-! ## Steps of a walk -/

/-- The state of a walk: the nodes entered so far, and the state of the emitter. -/
structure Progress (σ : Type) where
  entered : List Text := []
  inner : σ

abbrev Walk (σ : Type) := ExceptT Error (StateM (Progress σ))

abbrev Emitter (σ : Type) := Node → Path → ExceptT Error (StateM σ) Emission

variable {σ : Type}

def emitting (emit : Emitter σ) (node : Node) (path : Path) : Walk σ Emission :=
  fun progress =>
    let (result, inner) := emit node path progress.inner
    (result, { progress with inner })

def orStop {α : Type} : Except Error α → Walk σ α
  | .ok value => pure value
  | .error found => throw found

def enter (node : Node) : Walk σ Unit := do
  if node.kind ≠ .finish then
    if node.id ∈ (← get).entered then throw (.problemOf node.id (.reachedTwice node.id))
    else modify fun progress => { progress with entered := progress.entered ++ [node.id] }

/-! ## The ways on from a node -/

/-- A way on from a node: the edge that is looked up for it, and the path along it. -/
structure Way where
  edge : Option Edge
  path : Path

/-- The edge of a case; the only case of a branch may be tagged as true. -/
def caseEdge? (graph : Graph) (id : Text) (cases index : Nat) : Option Edge :=
  match graph.edge? id (.case index) with
  | some edge => some edge
  | none => if index = 0 ∧ cases = 1 then graph.edge? id .yes else none

def leadsToEnd (graph : Graph) (edge : Edge) : Bool :=
  (graph.node? edge.target).any (·.kind = .finish)

/-- The path of a rejected run: where the run ends at once, it is the one of the raw input. -/
def rejectedPath (graph : Graph) (edge : Option Edge) (path : Path) : Path :=
  if edge.any (leadsToEnd graph) then { path with lastResult := none, guardrailText := none }
  else path

/-- The ways on from a node after a call of the emitter, in the order in which they are walked. -/
def waysOn (graph : Graph) (call : Call) : List Way :=
  let id := call.node.id
  let onward : List Way := [⟨graph.edge? id .plain, call.path.after call.emission⟩]
  match call.node.config with
  | .finish _ => []
  | .branch cases =>
    (List.range call.emission.conditions.length).map
        (fun index => ⟨caseEdge? graph id cases.length index, call.path⟩) ++
      [⟨graph.edge? id .no, call.path⟩]
  | .loop _ =>
    [⟨graph.edge? id .loopBody, call.path.entering id⟩, ⟨graph.edge? id .loopExit, call.path⟩]
  | .approval _ =>
    match call.emission.gate with
    | none => onward
    | some _ =>
      let reject := graph.edge? id .reject
      [⟨graph.edge? id .approve, call.path.after call.emission⟩,
        ⟨reject, rejectedPath graph reject call.path⟩]
  | _ => onward

/-! ## The walk -/

/-- The route from an arrival on; without one, the walk stops.  The fuel counts the nodes that can
still be visited one after the other: where none can, the node has been entered before. -/
def walk (graph : Graph) (emit : Emitter σ) : Nat → Option Arrival → Path → Walk σ Route
  | _, none, path => return .stop path
  | 0, some arrival, _ => throw (.problemOf arrival.id (.reachedTwice arrival.id))
  | fuel + 1, some arrival, path => do
    if arrival.id ∈ path.openLoops then
      if path.openLoops.getLast? = some arrival.id then return .back arrival
      else throw (.problemOf arrival.id (.reentered arrival.id))
    else
      let node ← orStop (graph.node arrival.id)
      enter node
      let emission ← emitting emit node path
      let call : Call := ⟨node, path, emission⟩
      let ways ← (waysOn graph call).mapM fun way =>
        walk graph emit fuel (way.edge.map .via) way.path
      return .visit arrival call ways

def survey (graph : Graph) (emit : Emitter σ) : ExceptT Error (StateM σ) Route :=
  fun inner =>
    let (result, progress) :=
      walk graph emit (graph.nodes.length + 1) (some (.start graph.entryId)) {} { inner }
    (result, progress.inner)

def linearize (graph : Graph) (emit : Emitter σ) : ExceptT Error (StateM σ) Block := do
  return (← survey graph emit).block

end AgentFlow.Linear
