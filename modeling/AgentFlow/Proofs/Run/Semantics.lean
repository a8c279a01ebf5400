import AgentFlow.Proofs.Linear.Follows
import AgentFlow.Proofs.Run.Behaviour

/-!
# Running statements and running a graph

One machine executes a tree of statements; the other goes through a graph: it executes what was
emitted for the node where it arrives, decides by the kind of the node which way to leave it, and
follows the edge.  Ends are emitted once for each edge that leads to them.
-/

namespace AgentFlow.Run

open List Workflow Emit Linear

def asking {σ : Type} (condition : Text) (oracle : Oracle) (next : Bool → σ) :
    List Event × Next σ :=
  ([.ask condition (oracle 0)], .onward (next (oracle 0)) oracle.rest)

/-! ## Statements -/

/-- The machine that executes statements. -/
def tree : Machine Block := fun oracle block =>
  match block with
  | [] => ([], .ended .nowhere)
  | .ret value :: _ => ([], .ended (.returned value))
  | .block body :: rest => ([], .onward (body ++ rest) oracle)
  | .branch [] orelse :: rest => ([], .onward (orelse.getD [] ++ rest) oracle)
  | .branch ((condition, body) :: arms) orelse :: rest =>
    asking condition oracle fun answer =>
      if answer then body ++ rest else .branch arms orelse :: rest
  | .loop condition body :: rest =>
    asking condition oracle fun answer =>
      if answer then body ++ .loop condition body :: rest else rest
  | .guard condition continuation fallback continueWhen :: rest =>
    asking condition oracle fun answer =>
      if answer = continueWhen then continuation ++ rest else fallback ++ rest
  | statement :: rest => ([.run statement], .onward rest oracle)

/-! ## Graphs -/

def perform : List Statement → List Event × Option Ending
  | [] => ([], none)
  | .ret value :: _ => ([], some (.returned value))
  | statement :: rest =>
    let (events, ending) := perform rest
    (.run statement :: events, ending)

/-- Evaluates conditions in order until one holds, and tells which one it is. -/
def firstTrue : List Text → Oracle → List Event × Option Nat × Oracle
  | [], oracle => ([], none, oracle)
  | condition :: rest, oracle =>
    if oracle 0 then ([.ask condition true], some 0, oracle.rest)
    else
      let (events, found, oracle) := firstTrue rest oracle.rest
      (.ask condition false :: events, found.map (· + 1), oracle)

/-- Leaves a node by one of its exits; the last node of a chain ends the run with the last result on
the path. -/
def leaveBy (graph : Graph) (call : Call) (tag : Tag) (oracle : Oracle) : Next Arrival :=
  match exit? graph call.node tag with
  | some edge => .onward (.via edge) oracle
  | none => .ended (.returned (call.path.after call.emission).current)

def gateCondition (call : Call) : Text := (call.emission.gate.map Gate.condition).getD []

def leave (graph : Graph) (call : Call) (oracle : Oracle) : List Event × Next Arrival :=
  match call.node.config with
  | .finish _ => ([], .ended .nowhere)
  | .branch _ =>
    let (events, found, oracle) := firstTrue call.emission.conditions oracle
    (events, leaveBy graph call (match found with | some index => .case index | none => .no) oracle)
  | .loop _ =>
    ([.ask (call.emission.conditions.headD []) (oracle 0)],
      leaveBy graph call (if oracle 0 then .loopBody else .loopExit) oracle.rest)
  | .approval _ =>
    ([.ask (gateCondition call) (oracle 0)],
      leaveBy graph call (if oracle 0 then .approve else .reject) oracle.rest)
  | .guardrail _ =>
    ([.ask (gateCondition call) (oracle 0)],
      if oracle 0 then .ended (.returned (orWorkflow (call.emission.gate.bind Gate.fallback)))
      else leaveBy graph call .plain oracle.rest)
  | _ => ([], leaveBy graph call .plain oracle)

def visiting (graph : Graph) (call : Call) (oracle : Oracle) : List Event × Next Arrival :=
  match perform call.emission.statements with
  | (events, some ending) => (events, .ended ending)
  | (events, none) =>
    let (more, next) := leave graph call oracle
    (events ++ more, next)

/-- What is emitted at an arrival: for a node its only call, for an end the call on this arrival. -/
def callAt (route : Route) (arrival : Arrival) : Option Call :=
  (route.visits.find? fun (other, call) =>
    call.node.id = arrival.id ∧ (call.node.kind = .finish →
      other.edge? = arrival.edge?)).map Prod.snd

/-- The machine that goes through a graph, given what was emitted on a route. -/
def walking (graph : Graph) (route : Route) : Machine Arrival := fun oracle arrival =>
  match callAt route arrival with
  | none => ([], .ended .nowhere)
  | some call => visiting graph call oracle

/-! ## Stretches of a run through statements -/

variable {statements before rest : List Statement} {statement : Statement} {value : Text}
  {oracle : Oracle}

theorem tree_isPlain (plain : statement.isPlain) (oracle : Oracle) (rest : Block) :
    tree oracle (statement :: rest) = ([.run statement], .onward rest oracle) := by
  cases statement <;> first | rfl | cases plain

theorem tree_plain (plain : Plain statements) (oracle : Oracle) (rest : Block) :
    Goes tree statements.length oracle (statements ++ rest) (statements.map .run) oracle rest := by
  induction statements with
  | nil => exact .refl _ _ _
  | cons statement others ih =>
    obtain ⟨first, later⟩ := plain_cons.1 plain
    have step : Goes tree 1 oracle (statement :: (others ++ rest)) [.run statement] oracle
        (others ++ rest) := .one (tree_isPlain first oracle _)
    rw [length_cons, Nat.add_comm]
    exact step.trans (ih later)

theorem perform_isPlain (plain : statement.isPlain) (rest : List Statement) :
    perform (statement :: rest) = (.run statement :: (perform rest).1, (perform rest).2) := by
  cases statement <;> first | rfl | cases plain

theorem perform_plain_append (plain : Plain statements) (rest : List Statement) :
    perform (statements ++ rest) =
      (statements.map .run ++ (perform rest).1, (perform rest).2) := by
  induction statements with
  | nil => rfl
  | cons statement others ih =>
    obtain ⟨first, later⟩ := plain_cons.1 plain
    rw [cons_append, perform_isPlain first, ih later]
    rfl

theorem perform_plain (plain : Plain statements) :
    perform statements = (statements.map .run, none) := by
  have done := perform_plain_append plain []
  simpa [perform] using done

/-- What a branch goes on with, given which of its conditions holds first. -/
def chosen (arms : List (Text × Block)) (orelse : Option Block) : Option Nat → Block
  | some index => (arms[index]?.map Prod.snd).getD []
  | none => orelse.getD []

theorem tree_branch (arms : List (Text × Block)) (orelse : Option Block) (oracle : Oracle)
    (rest : Block) :
    ∃ steps, Goes tree (steps + 1) oracle (.branch arms orelse :: rest)
      (firstTrue (arms.map Prod.fst) oracle).1 (firstTrue (arms.map Prod.fst) oracle).2.2
      (chosen arms orelse (firstTrue (arms.map Prod.fst) oracle).2.1 ++ rest) := by
  induction arms generalizing oracle with
  | nil => exact ⟨0, .one rfl⟩
  | cons arm arms ih =>
    obtain ⟨condition, body⟩ := arm
    have step : Goes tree 1 oracle (.branch ((condition, body) :: arms) orelse :: rest)
        [.ask condition (oracle 0)] oracle.rest
        (if oracle 0 then body ++ rest else .branch arms orelse :: rest) := .one rfl
    rw [map_cons, firstTrue]
    cases answer : oracle 0 with
    | true =>
      rw [answer] at step
      exact ⟨0, step⟩
    | false =>
      rw [answer] at step
      obtain ⟨steps, goes⟩ := ih oracle.rest
      refine ⟨1 + steps, ?_⟩
      have whole := step.trans goes
      rw [← Nat.add_assoc] at whole
      cases found : (firstTrue (arms.map Prod.fst) oracle.rest).2.1 <;>
        simpa [found, chosen] using whole

theorem lt_of_firstTrue : ∀ (conditions : List Text) (oracle : Oracle) (index : Nat),
    (firstTrue conditions oracle).2.1 = some index → index < conditions.length
  | [], _, _, found => by cases found
  | condition :: rest, oracle, index, found => by
    rw [firstTrue] at found
    split at found
    · cases found
      exact Nat.zero_lt_succ _
    · obtain ⟨before, later, rfl⟩ := Option.map_eq_some_iff.1 found
      exact Nat.succ_lt_succ (lt_of_firstTrue rest oracle.rest before later)

end AgentFlow.Run
