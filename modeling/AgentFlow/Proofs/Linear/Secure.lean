import AgentFlow.Proofs.Emit.Declaring
import AgentFlow.Proofs.Linear.Log
import AgentFlow.Proofs.Linear.Ways
import AgentFlow.Proofs.Workflow.WellFormed
import Mathlib.Computability.Primrec.List
import Mathlib.Data.List.Permutation

/-!
# Checked graphs are compiled without internal errors

An unknown node, two declarations under one key, a tool that nobody has collected, a loop without a
condition: the walk through a graph and its emitters would stop there, but the checks leave no way
to get there.  One invariant of the nodes entered so far and of the draft is carried along the walk.
-/

namespace AgentFlow.Linear

open List Workflow Emit Stoppable

variable {σ α β : Type} {graph : Graph}

/-! ## Walks that keep an invariant -/

/-- Work that keeps an invariant, whether it returns or stops, and stops with an allowed error
only. -/
def Safe (allows : Error → Prop) (holds : Progress σ → Prop) (work : Walk σ α) : Prop :=
  ∀ progress, holds progress → holds (work progress).2 ∧
    ∀ found, (work progress).1 = .error found → allows found

variable {allows : Error → Prop} {holds : Progress σ → Prop}

namespace Safe

theorem pure (value : α) : Safe allows holds (Pure.pure value : Walk σ α) :=
  fun _ held => ⟨held, nofun⟩

theorem throw {found : Error} (allowed : allows found) :
    Safe allows holds (MonadExcept.throw found : Walk σ α) := by
  refine fun _ held => ⟨held, fun other same => ?_⟩
  cases same
  exact allowed

theorem bind {first : Walk σ α} {next : α → Walk σ β} (before : Safe allows holds first)
    (after : ∀ value, Safe allows holds (next value)) : Safe allows holds (first >>= next) := by
  intro progress held
  obtain ⟨kept, allowed⟩ := before progress held
  rw [bind_run]
  rcases run : first progress with ⟨found | value, middle⟩
  · rw [run] at kept allowed
    exact ⟨kept, fun other same => allowed other (by cases same; rfl)⟩
  · rw [run] at kept
    exact after value middle kept

theorem mapM {work : α → Walk σ β} {items : List α}
    (each : ∀ item ∈ items, Safe allows holds (work item)) :
    Safe allows holds (items.mapM work) := by
  induction items with
  | nil => exact pure []
  | cons item rest ih =>
    rw [mapM_cons]
    exact (each item (by simp)).bind fun _ =>
      (ih fun other listed => each other (by simp [listed])).bind fun _ => pure _

end Safe

/-- An emitter that keeps an invariant at every node that is entered for the first time. -/
def Keeps (graph : Graph) (emit : Emitter σ) (allows : Error → Prop)
    (holds : Progress σ → Prop) : Prop :=
  ∀ node ∈ graph.nodes, ∀ (path : Path) (progress : Progress σ), holds progress →
    (node.kind ≠ .finish → node.id ∉ progress.entered) →
      holds ⟨recorded node progress.entered, (emit node path progress.inner).2⟩ ∧
        ∀ found, (emit node path progress.inner).1 = .error found → allows found

variable {emit : Emitter σ} (own : ∀ {found : Error}, found.isInternal = false →
  found.isReported = true → allows found) (keeps : Keeps graph emit allows holds)

include own keeps

theorem visit_safe {arrival : Arrival} (known : arrival.id ∈ graph.nodeIds) (path : Path) :
    Safe allows holds (visit graph emit arrival path) := by
  intro progress held
  obtain ⟨node, found⟩ := Graph.mem_nodeIds_iff.1 known
  rw [visit_run, found]
  dsimp only
  split
  · exact ⟨held, fun other same => by cases same; exact own rfl rfl⟩
  · next fresh =>
      obtain ⟨kept, allowed⟩ := keeps node (Graph.node?_eq_some_iff.1 found).1 path progress held
        fun inner here => fresh ⟨inner, here⟩
      refine ⟨kept, fun other same => allowed other ?_⟩
      cases result : (emit node path progress.inner).1 <;> rw [result] at same <;> cases same
      rfl

/-- **A walk through a checked graph keeps what its emitter keeps.** -/
theorem walk_safe (checked : Checked graph) : ∀ (fuel : Nat) (arrival : Option Arrival)
    (path : Path), (∀ here, arrival = some here → here.id ∈ graph.nodeIds) →
      Safe allows holds (walk graph emit fuel arrival path)
  | fuel, none, path, _ => by
    cases fuel <;> exact .pure _
  | 0, some arrival, path, _ => .throw (own rfl rfl)
  | fuel + 1, some arrival, path, listed => by
    by_cases inside : arrival.id ∈ path.openLoops
    · rw [walk, if_pos inside]
      split
      · exact .pure _
      · exact .throw (own rfl rfl)
    · rw [walk_visit_run inside]
      refine (visit_safe own keeps (listed arrival rfl) path).bind fun call => ?_
      refine Safe.bind (.mapM fun way member => ?_) fun _ => .pure _
      refine walk_safe checked fuel _ _ fun here same => ?_
      obtain ⟨edge, followed, rfl⟩ := Option.map_eq_some_iff.1 same
      exact (checked.joined edge (openLoops_of_way member followed).1).2

theorem survey_safe (checked : Checked graph) (state : σ) (held : holds ⟨[], state⟩) :
    (∃ entered, holds ⟨entered, (survey graph emit state).2⟩) ∧
      ∀ found, (survey graph emit state).1 = .error found → allows found := by
  obtain ⟨entry, start, _⟩ := checked.entry
  obtain ⟨kept, allowed⟩ := walk_safe own keeps checked (graph.nodes.length + 1)
    (some (.start graph.entryId)) {}
    (fun here same => by cases same; exact Graph.mem_nodeIds_iff.2 ⟨entry, start⟩) _ held
  exact ⟨⟨_, kept⟩, allowed⟩

omit own keeps

/-! ## Attempts to emit nodes -/

/-- What is sure about an attempt to emit a node: the node is one of the graph and the tools it uses
are known; and if the attempt succeeds, a loop has a condition, and every way on from the node leads
to a node of the graph, unless the node is one of a chain and has no outgoing edge. -/
structure Attempt.Secure (context : Context) (attempt : Attempt) : Prop where
  known : attempt.node ∈ context.graph.nodes
  stocked : ∀ tool ∈ toolsOf attempt.node,
    ∃ found, context.tools.find? (·.name = tool.name) = some found
  condition : ∀ emission source, attempt.result = .ok emission →
    attempt.node.config = .loop source → emission.conditions ≠ []
  onward : ∀ emission, attempt.result = .ok emission →
    ∀ way ∈ waysOn context.graph ⟨attempt.node, attempt.path, emission⟩, match way.edge with
      | some edge => edge.target ∈ context.graph.nodeIds
      | none => attempt.node.kind.isLinear = true ∧ context.graph.edgesFrom attempt.node.id = []

theorem isLinear_of_way {call : Call} {way : Way} (tagged : Tagged graph call.node)
    (fits : call.emission.Fits call.node.config) (member : way ∈ waysOn graph call)
    (nowhere : way.edge = none) :
    call.node.kind.isLinear = true ∧ graph.edgesFrom call.node.id = [] := by
  have listed : none ∈ (requiredTags call.node).map (exit? graph call.node) := by
    rw [← waysOn_edges tagged fits]
    exact nowhere ▸ mem_map_of_mem member
  obtain ⟨tag, required, missing⟩ := mem_map.1 listed
  have linear : call.node.kind.isLinear = true := by
    by_contra branching
    obtain ⟨edge, found⟩ := tagged.exists_exit (by simpa using branching) required
    rw [missing] at found
    cases found
  refine ⟨linear, ?_⟩
  have exits := exits_perm tagged
  rw [requiredTags_of_linear linear, mem_singleton] at required
  rw [requiredTags_of_linear linear, ← required, filterMap_cons, missing] at exits
  exact exits.nil_eq.symm

theorem secure_of_fits {context : Context} (checked : Checked context.graph)
    (stocked : ∀ node ∈ context.graph.nodes, Stocked context node) {attempt : Attempt}
    (known : attempt.node ∈ context.graph.nodes)
    (fits : ∀ emission, attempt.result = .ok emission → emission.Fits attempt.node.config) :
    attempt.Secure context where
  known := known
  stocked := stocked _ known
  condition emission source succeeded config := by
    have shape := fits emission succeeded
    rw [config] at shape
    obtain ⟨_, condition, conditions⟩ := shape
    simp [conditions]
  onward emission succeeded way member := by
    cases found : way.edge with
    | some edge => exact (checked.joined edge (openLoops_of_way member found).1).2
    | none =>
      exact isLinear_of_way (checked.tagged _ known) (fits emission succeeded) member found

/-! ## Whole walks -/

/-- The draft is clear of clashes, and all attempts so far were secure. -/
def SecureSoFar (context : Context) (progress : Progress (Draft × List Attempt)) : Prop :=
  progress.inner.1.Clear context progress.entered ∧
    ∀ attempt ∈ progress.inner.2, attempt.Secure context

theorem notingEmitter_keeps {context : Context} (checked : Checked context.graph)
    (distinct : (context.tools.map FunctionTool.name).Nodup)
    (stocked : ∀ node ∈ context.graph.nodes, Stocked context node) :
    Keeps context.graph (notingEmitter context).logged (Error.isInternal · = false)
      (SecureSoFar context) := by
  intro node known path progress held fresh
  obtain ⟨clear, external⟩ :=
    notingEmitter_clear distinct (stocked node known) path fresh held.1
  refine ⟨⟨clear, fun attempt listed => ?_⟩, external⟩
  rcases mem_append.1 listed with before | here
  · exact held.2 attempt before
  · obtain rfl := mem_singleton.1 here
    refine secure_of_fits checked stocked known fun emission succeeded => ?_
    exact notingEmitter_fits context node path (Prod.ext succeeded rfl)

/-- **A checked graph is walked without internal errors.**  Where the walk stops, it is never for an
unknown node, a clash of declarations or an unknown kind of node; and whatever node it tries to emit
on the way, the tools of the node are known, a loop has its condition, and there is no way on only
after the last node of a chain. -/
theorem body_is_secure {graph : Graph} {settings : Settings} {context : Context} {draft : Draft}
    (valid : validate graph = .ok ()) (started : start graph settings = .ok (context, draft)) :
    (∀ found last, body context draft = (.error found, last) → found.isInternal = false) ∧
      ∀ attempt ∈ attempts graph (notingEmitter context) draft, attempt.Secure context := by
  have stocked : ∀ node ∈ graph.nodes, Stocked context node := fun _ => stocked_of_start started
  obtain ⟨rfl, collected, empty⟩ := start_eq_ok started
  have checked := checked_of_validate valid
  have gathered := collected_of_collectTools collected
  have clear : draft.Clear context [] := by
    unfold Draft.Clear
    rw [empty]
    exact .nil
  obtain ⟨⟨_, _, secure⟩, external⟩ := survey_safe (fun internal _ => internal)
    (notingEmitter_keeps checked gathered.distinct stocked) checked (draft, []) ⟨clear, by simp⟩
  refine ⟨fun found last stopped => external found ?_, secure⟩
  have surveyed : (survey context.graph (notingEmitter context) draft).1 = .error found := by
    rcases bind_eq_error.1 stopped with stopped | ⟨route, _, _, returned⟩
    · rw [stopped]
    · cases returned
  exact (survey_logged context.graph (notingEmitter context) draft).trans surveyed

/-- A loop whose body calls a tool; nothing follows it but a node without outgoing edges. -/
def gathering : Graph where
  workflow := {
    entryId := "s"
    inputSchema := [("properties", .obj [("input_as_text", .obj [])])]
    nodes := [{ id := "s", config := .start }, { id := "w", config := .loop "true" },
      { id := "t", config := .functionTool { tool := { name := "lookup" } } },
      { id := "l", config := .setState [] }]
    edges := [{ source := "s", target := "w" }, { source := "w", target := "t", tag := .loopBody },
      { source := "t", target := "w" }, { source := "w", target := "l", tag := .loopExit }] }
  distinct := by decide

theorem gathering_valid : validate gathering = .ok () := by cbv

theorem gathering_started : ∃ draft, start gathering {} =
    .ok ({ graph := gathering, settings := {}, tools := [{ name := "lookup" }] }, draft) := by
  have collected : collectTools gathering = .ok [{ name := "lookup" }] := by cbv
  unfold start
  rw [collected]
  exact ⟨_, rfl⟩

/-- The attempts to emit the nodes of the loop are secure. -/
theorem gathering_secure : validate gathering = .ok () ∧
    ∃ context draft, start gathering {} = .ok (context, draft) ∧
      ∀ attempt ∈ attempts gathering (notingEmitter context) draft, attempt.Secure context := by
  obtain ⟨draft, started⟩ := gathering_started
  exact ⟨gathering_valid, _, draft, started, (body_is_secure gathering_valid started).2⟩

end AgentFlow.Linear
