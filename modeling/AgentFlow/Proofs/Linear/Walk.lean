import AgentFlow.Linear.Walk
import AgentFlow.Proofs.Stoppable
import AgentFlow.Proofs.Workflow.Checked

/-!
# What one visit of a walk does

A walk that arrives at a node goes back, stops with an error, or visits the node: it records it,
calls the emitter, and walks along the ways on.  What a visit does is said once here; what a whole
walk does follows by induction on the fuel.
-/

namespace AgentFlow.Linear

open Workflow Emit Stoppable

variable {σ : Type} {graph : Graph} {emit : Emitter σ} {fuel : Nat} {arrival : Arrival}
  {path : Path} {progress last : Progress σ} {call : Call} {result : Except Error Route}

/-! ## Visits -/

/-- The ids entered once a node is entered as well; ends are not recorded. -/
def recorded (node : Node) (entered : List Text) : List Text :=
  if node.kind = .finish then entered else entered ++ [node.id]

theorem enter_run (node : Node) (progress : Progress σ) :
    enter node progress =
      if node.kind ≠ .finish ∧ node.id ∈ progress.entered then
        (.error (.problemOf node.id (.reachedTwice node.id)), progress)
      else (.ok (), { progress with entered := recorded node progress.entered }) := by
  unfold enter recorded
  by_cases finish : node.kind = .finish
  · simp only [finish, ne_eq, not_true_eq_false, false_and, if_false, if_true]
    rfl
  · simp only [finish, ne_eq, not_false_eq_true, true_and, if_true, if_false]
    rw [get_bind_run]
    split <;> rfl

/-- A visit: the node is looked up and recorded, and the emitter is called. -/
def visit (graph : Graph) (emit : Emitter σ) (arrival : Arrival) (path : Path) : Walk σ Call := do
  let node ← orStop (graph.node arrival.id)
  enter node
  let emission ← emitting emit node path
  return ⟨node, path, emission⟩

theorem visit_run (graph : Graph) (emit : Emitter σ) (arrival : Arrival) (path : Path)
    (progress : Progress σ) : visit graph emit arrival path progress =
      match graph.node? arrival.id with
      | none => (.error (.problemOf arrival.id (.unknownNode arrival.id)), progress)
      | some node =>
        if node.kind ≠ .finish ∧ node.id ∈ progress.entered then
          (.error (.problemOf node.id (.reachedTwice node.id)), progress)
        else
          ((emit node path progress.inner).1.map fun emission => ⟨node, path, emission⟩,
            ⟨recorded node progress.entered, (emit node path progress.inner).2⟩) := by
  unfold visit Graph.node
  cases graph.node? arrival.id with
  | none => rfl
  | some node =>
    show (enter node >>= _) progress = _
    rw [bind_run, enter_run]
    by_cases twice : node.kind ≠ .finish ∧ node.id ∈ progress.entered
    · simp only [if_pos twice]
    · simp only [if_neg twice]
      rw [bind_run, emitting]
      rcases emit node path progress.inner with ⟨_ | emission, inner⟩ <;> rfl

theorem visit_eq_ok (done : visit graph emit arrival path progress = (.ok call, last)) :
    graph.node? arrival.id = some call.node ∧ call.path = path ∧
      (call.node.kind ≠ .finish → call.node.id ∉ progress.entered) ∧
      emit call.node path progress.inner = (.ok call.emission, last.inner) ∧
      last.entered = recorded call.node progress.entered := by
  rw [visit_run] at done
  split at done
  · cases done
  · next node known =>
      split at done
      · cases done
      · next fresh =>
          rcases emitted : emit node path progress.inner with ⟨_ | emission, inner⟩ <;>
            rw [emitted] at done <;> cases done
          exact ⟨known, rfl, fun inner here => fresh ⟨inner, here⟩, emitted, rfl⟩

/-! ## Walks -/

/-- The walk along the ways on from a call, one after the other. -/
def walkAll (graph : Graph) (emit : Emitter σ) (fuel : Nat) (ways : List Way) :
    Walk σ (List Route) :=
  ways.mapM fun way => walk graph emit fuel (way.edge.map .via) way.path

theorem walk_nowhere (graph : Graph) (emit : Emitter σ) (fuel : Nat) (path : Path)
    (progress : Progress σ) :
    walk graph emit fuel none path progress = (.ok (.stop path), progress) := by
  cases fuel <;> rfl

theorem walk_visit_run (away : arrival.id ∉ path.openLoops) :
    walk graph emit (fuel + 1) (some arrival) path =
      (do
        let call ← visit graph emit arrival path
        let ways ← walkAll graph emit fuel (waysOn graph call)
        return .visit arrival call ways) := by
  rw [walk, if_neg away, visit]
  simp only [bind_assoc, pure_bind]
  rfl

/-- What a walk has done at the node it arrived at. -/
inductive Arrived (graph : Graph) (emit : Emitter σ) (fuel : Nat) (arrival : Arrival)
    (path : Path) (progress : Progress σ) : Except Error Route → Progress σ → Prop
  | back (innermost : path.openLoops.getLast? = some arrival.id) :
      Arrived graph emit fuel arrival path progress (.ok (.back arrival)) progress
  | reentered (inside : arrival.id ∈ path.openLoops)
      (outer : path.openLoops.getLast? ≠ some arrival.id) :
      Arrived graph emit fuel arrival path progress
        (.error (.problemOf arrival.id (.reentered arrival.id))) progress
  | stopped {found last} (away : arrival.id ∉ path.openLoops)
      (visited : visit graph emit arrival path progress = (.error found, last)) :
      Arrived graph emit fuel arrival path progress (.error found) last
  | onward {found call middle last} (away : arrival.id ∉ path.openLoops)
      (visited : visit graph emit arrival path progress = (.ok call, middle))
      (walked : walkAll graph emit fuel (waysOn graph call) middle = (.error found, last)) :
      Arrived graph emit fuel arrival path progress (.error found) last
  | visit {call ways middle last} (away : arrival.id ∉ path.openLoops)
      (visited : visit graph emit arrival path progress = (.ok call, middle))
      (walked : walkAll graph emit fuel (waysOn graph call) middle = (.ok ways, last)) :
      Arrived graph emit fuel arrival path progress (.ok (.visit arrival call ways)) last

theorem arrived_of_walk
    (done : walk graph emit (fuel + 1) (some arrival) path progress = (result, last)) :
    Arrived graph emit fuel arrival path progress result last := by
  by_cases inside : arrival.id ∈ path.openLoops
  · rw [walk, if_pos inside] at done
    split at done
    · next innermost =>
        cases done
        exact .back innermost
    · next outer =>
        cases done
        exact .reentered inside outer
  · rw [walk_visit_run inside, bind_run] at done
    rcases visited : visit graph emit arrival path progress with ⟨_ | call, middle⟩ <;>
      rw [visited] at done
    · cases done
      exact .stopped inside visited
    · dsimp only at done
      rw [bind_run] at done
      rcases walked : walkAll graph emit fuel (waysOn graph call) middle with ⟨_ | ways, last⟩ <;>
        rw [walked] at done <;> cases done
      · exact .onward inside visited walked
      · exact .visit inside visited walked

theorem exists_walk_of_survey {state last : σ} (done : survey graph emit state = (result, last)) :
    ∃ progress, walk graph emit (graph.nodes.length + 1) (some (.start graph.entryId)) {}
      { inner := state } = (result, progress) ∧ progress.inner = last := by
  obtain ⟨rfl, rfl⟩ := Prod.mk.inj done
  exact ⟨_, rfl, rfl⟩

end AgentFlow.Linear
