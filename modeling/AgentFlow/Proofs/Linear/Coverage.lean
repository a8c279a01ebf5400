import AgentFlow.Proofs.Linear.Log
import AgentFlow.Proofs.Linear.Ways
import Mathlib.Computability.Primrec.List
import Mathlib.Data.List.Permutation

/-!
# A walk covers its graph

On a checked graph, a walk that returns has emitted every node once, an end once for each edge that
leads to it, and has followed every edge once.  The edges that a route follows are the exits of the
nodes it calls the emitter for; and whatever an edge leads to has been visited, or is an open loop.
-/

namespace AgentFlow.Linear

open List Workflow Emit

variable {graph : Graph} {arrival : Option Arrival} {path : Path} {route : Route} {call : Call}
  {edge : Edge} {node : Node}

theorem flatMap_perm_append {α β γ : Type} {own : α → List γ} {whole rest : β → List γ}
    {lefts : List α} {rights : List β}
    (split : List.Forall₂ (fun left right => (whole right).Perm (own left ++ rest right)) lefts
      rights) :
    (rights.flatMap whole).Perm (lefts.flatMap own ++ rights.flatMap rest) := by
  induction split with
  | nil => exact .refl _
  | @cons left right lefts rights first _ ih =>
    simp only [flatMap_cons]
    calc whole right ++ rights.flatMap whole
      _ |>.Perm ((own left ++ rest right) ++ (lefts.flatMap own ++ rights.flatMap rest)) :=
        first.append ih
      _ |>.Perm ((own left ++ lefts.flatMap own) ++ (rest right ++ rights.flatMap rest)) := by
        simp only [append_assoc]
        refine List.Perm.append_left _ ?_
        rw [← append_assoc, ← append_assoc]
        exact perm_append_comm.append_right _

/-! ## The edges of a route are the exits of its nodes -/

namespace Follows

theorem known_of_call (follows : Follows graph arrival path route) (member : call ∈ route.calls) :
    graph.node? call.node.id = some call.node ∧ call.emission.Fits call.node.config := by
  induction follows with
  | stop path => cases member
  | back arrival path => cases member
  | visit arrival first ways known away fits _ onward =>
    rw [Route.calls_visit] at member
    rcases mem_cons.1 member with rfl | member
    · exact ⟨(Graph.node?_eq_some_iff.1 known).2 ▸ known, fits⟩
    · obtain ⟨way, listed, inside⟩ := mem_flatMap.1 member
      obtain ⟨_, _, _, holds⟩ := exists_of_mem_right onward listed
      exact holds inside

theorem followed_perm_ways (follows : Follows graph arrival path route) :
    route.followed.Perm ((arrival.bind Arrival.edge?).toList ++
      route.calls.flatMap fun call => (waysOn graph call).filterMap Way.edge) := by
  induction follows with
  | stop path => exact .refl _
  | back arrival path innermost => simp [Route.followed, Route.calls, Route.visits]
  | visit arrival call ways _ _ _ _ onward =>
    rw [Route.followed_visit, Route.calls_visit, flatMap_cons, flatMap_assoc,
      filterMap_eq_flatMap_toList]
    refine List.Perm.append_left _ (flatMap_perm_append (onward.imp fun way route holds => ?_))
    obtain ⟨_, split⟩ := holds
    cases found : way.edge <;> simpa [found, Arrival.edge?] using split

theorem followed_perm (checked : Checked graph) (follows : Follows graph arrival path route) :
    route.followed.Perm ((arrival.bind Arrival.edge?).toList ++
      route.calls.flatMap fun call => graph.edgesFrom call.node.id) := by
  refine follows.followed_perm_ways.trans (List.Perm.append_left _ ?_)
  refine List.Perm.flatMap_left _ fun call member => ?_
  obtain ⟨known, fits⟩ := follows.known_of_call member
  exact waysOn_perm (checked.tagged _ (Graph.node?_eq_some_iff.1 known).1) fits

/-! ## What is visited -/

theorem visited_of_followed (follows : Follows graph arrival path route)
    (member : edge ∈ route.followed) :
    (∃ call ∈ route.calls, call.node.id = edge.target) ∨ edge.target ∈ path.openLoops := by
  induction follows with
  | stop path => cases member
  | back arrival path innermost =>
    cases arrival with
    | start id => cases member
    | via other =>
      obtain rfl : edge = other := mem_singleton.1 member
      exact .inr (mem_of_getLast? innermost)
  | visit arrival call ways known _ _ _ onward =>
    rw [Route.followed_visit] at member
    rw [Route.calls_visit]
    rcases mem_append.1 member with own | later
    · cases arrival with
      | start id => cases own
      | via other =>
        obtain rfl : edge = other := mem_singleton.1 own
        exact .inl ⟨call, mem_cons_self, (Graph.node?_eq_some_iff.1 known).2⟩
    · obtain ⟨route, listed, inside⟩ := mem_flatMap.1 later
      obtain ⟨way, looked, _, holds⟩ := exists_of_mem_right onward listed
      rcases holds inside with ⟨other, called, same⟩ | opened
      · exact .inl ⟨other, mem_cons_of_mem _ (mem_flatMap.2 ⟨route, listed, called⟩), same⟩
      · rcases opened_of_way looked opened with before | here
        · exact .inr before
        · exact .inl ⟨call, mem_cons_self, here.symm⟩

theorem visited_of_arrival {arrival : Arrival} (follows : Follows graph (some arrival) path route)
    (outside : path.openLoops = []) : ∃ call ∈ route.calls, call.node.id = arrival.id := by
  cases follows with
  | back innermost =>
    rw [outside] at innermost
    cases innermost
  | @visit _ call ways known =>
    exact ⟨call, Route.calls_visit _ _ _ ▸ mem_cons_self, (Graph.node?_eq_some_iff.1 known).2⟩

variable {id : Text}

/-- A route from the entry visits every node that the entry reaches. -/
theorem visited_of_reaches (checked : Checked graph)
    (follows : Follows graph (some (.start graph.entryId)) {} route)
    (reaches : graph.Reaches graph.entryId id) : ∃ call ∈ route.calls, call.node.id = id := by
  induction reaches with
  | refl => exact follows.visited_of_arrival rfl
  | tail _ leads ih =>
    obtain ⟨call, called, rfl⟩ := ih
    obtain ⟨edge, listed, source, rfl⟩ := leads
    have exit : edge ∈ route.calls.flatMap fun call => graph.edgesFrom call.node.id :=
      mem_flatMap.2 ⟨call, called, Graph.mem_edgesFrom_iff.2 ⟨listed, source⟩⟩
    have member : edge ∈ route.followed :=
      (follows.followed_perm checked).mem_iff.2 (mem_append_right _ exit)
    rcases follows.visited_of_followed member with visited | opened
    · exact visited
    · cases opened

end Follows

/-! ## How often a node is visited -/

/-- A node is visited once if it is visited and no node but an end is entered twice. -/
theorem visits_eq_one (follows : Follows graph arrival path route) (once : route.entered.Nodup)
    (known : graph.node? node.id = some node) (inner : node.kind ≠ .finish)
    (visited : ∃ call ∈ route.calls, call.node.id = node.id) :
    route.calls.countP (fun call => call.node.id = node.id) = 1 := by
  have same : route.calls.countP (fun call => call.node.id = node.id) =
      route.entered.count node.id := by
    unfold Route.entered
    rw [List.count, countP_map, countP_filter]
    refine countP_congr fun call member => ?_
    have found := (follows.known_of_call member).1
    by_cases equal : call.node.id = node.id
    · rw [equal, known] at found
      simp [← Option.some.inj found, inner]
    · simp [equal]
  obtain ⟨call, called, equal⟩ := visited
  have some : 0 < route.calls.countP (fun call => call.node.id = node.id) :=
    countP_pos_iff.2 ⟨call, called, by simpa using equal⟩
  have most := nodup_iff_count_le_one.1 once node.id
  omega

/-- An end is visited once for each followed edge that leads to it. -/
theorem visits_eq_followed (follows : Follows graph arrival path route)
    (known : graph.node? node.id = some node) (finish : node.kind = .finish)
    (elsewhere : ∀ id, arrival = some (.start id) → id ≠ node.id)
    (outside : node.id ∉ path.openLoops) :
    route.calls.countP (fun call => call.node.id = node.id) =
      route.followed.countP fun edge => edge.target = node.id := by
  induction follows with
  | stop path => rfl
  | back arrival path innermost =>
    cases arrival with
    | start id => rfl
    | via edge =>
      have other : edge.target ≠ node.id := fun same => outside (same ▸ mem_of_getLast? innermost)
      simp [Route.calls, Route.visits, Route.followed, Arrival.edge?, other]
  | visit arrival call ways found _ _ _ onward =>
    have own : [call].countP (fun call => call.node.id = node.id) =
        arrival.edge?.toList.countP fun edge => edge.target = node.id := by
      rw [countP_singleton, (Graph.node?_eq_some_iff.1 found).2]
      cases arrival with
      | start id => simp [Arrival.id, Arrival.edge?, elsewhere id rfl]
      | via edge => exact countP_singleton.symm
    have later : ∀ route ∈ ways, route.calls.countP (fun call => call.node.id = node.id) =
        route.followed.countP fun edge => edge.target = node.id := by
      intro route listed
      obtain ⟨way, looked, _, holds⟩ := exists_of_mem_right onward listed
      refine holds (fun id same => ?_) fun opened => ?_
      · obtain ⟨_, _, via⟩ := Option.map_eq_some_iff.1 same
        cases via
      · rcases opened_of_way looked opened with before | here
        · exact outside before
        · obtain ⟨_, same⟩ := Graph.node?_eq_some_iff.1 found
          rw [here, same, found] at known
          exact not_finish_of_way looked (Option.some.inj known ▸ finish)
    rw [Route.calls_visit, Route.followed_visit, countP_append, ← own,
      ← singleton_append, countP_append, countP_flatMap, countP_flatMap]
    exact congrArg (_ + List.sum ·) (map_congr_left later)

theorem nodup_edges (checked : Checked graph) : graph.edges.Nodup := by
  refine nodup_iff_count_le_one.2 fun edge => ?_
  by_cases listed : edge ∈ graph.edges
  · obtain ⟨source, found⟩ := Graph.mem_nodeIds_iff.1 (checked.joined edge listed).1
    obtain ⟨known, same⟩ := Graph.node?_eq_some_iff.1 found
    have distinct : (graph.edgesFrom edge.source).Nodup :=
      same ▸ List.Nodup.of_map _ (checked.tagged source known).distinct
    have count : (graph.edgesFrom edge.source).count edge = graph.edges.count edge :=
      count_filter (by simp)
    exact count ▸ nodup_iff_count_le_one.1 distinct edge
  · exact (count_eq_zero_of_not_mem listed).trans_le (Nat.zero_le 1)

theorem count_exits (checked : Checked graph) (listed : edge ∈ graph.edges) (calls : List Call) :
    (calls.flatMap fun call => graph.edgesFrom call.node.id).count edge =
      calls.countP fun call => call.node.id = edge.source := by
  have single : ∀ id, (graph.edgesFrom id).count edge = if id = edge.source then 1 else 0 := by
    intro id
    split
    · rename_i same
      exact count_eq_one_of_mem ((nodup_edges checked).filter _)
        (Graph.mem_edgesFrom_iff.2 ⟨listed, same.symm⟩)
    · rename_i other
      exact count_eq_zero_of_not_mem fun member => other (Graph.mem_edgesFrom_iff.1 member).2.symm
  induction calls with
  | nil => rfl
  | cons call rest ih =>
    rw [flatMap_cons, count_append, ih, single, countP_cons, Nat.add_comm]
    simp

theorem not_finish_of_source (checked : Checked graph) (listed : edge ∈ graph.edges)
    (known : graph.node? edge.source = some node) : node.kind ≠ .finish := by
  intro finish
  obtain ⟨member, source⟩ := Graph.node?_eq_some_iff.1 known
  have leaves : edge ∈ graph.edgesFrom node.id :=
    Graph.mem_edgesFrom_iff.2 ⟨listed, source.symm⟩
  have required := (checked.tagged node member).expected _ (mem_map_of_mem leaves)
  cases config : node.config <;>
    simp [Node.kind, config, Config.kind, requiredTags] at finish required

/-! ## Covering a graph -/

/-- A route from the entry follows exactly the edges of its graph. -/
theorem followed_perm_edges (checked : Checked graph)
    (follows : Follows graph (some (.start graph.entryId)) {} route)
    (once : route.entered.Nodup) : route.followed.Perm graph.edges := by
  have exits : route.followed.Perm (route.calls.flatMap fun call => graph.edgesFrom call.node.id) :=
    follows.followed_perm checked
  refine exits.trans (perm_iff_count.2 fun edge => ?_)
  by_cases listed : edge ∈ graph.edges
  · obtain ⟨source, known⟩ := Graph.mem_nodeIds_iff.1 (checked.joined edge listed).1
    have same := (Graph.node?_eq_some_iff.1 known).2
    have visited := follows.visited_of_reaches checked
      (checked.reached edge.source (checked.joined edge listed).1)
    rw [count_exits checked listed, count_eq_one_of_mem (nodup_edges checked) listed, ← same]
    exact visits_eq_one follows once (same ▸ known)
      (not_finish_of_source checked listed known) (same ▸ visited)
  · rw [count_eq_zero_of_not_mem listed]
    refine count_eq_zero_of_not_mem fun member => listed ?_
    obtain ⟨call, _, leaves⟩ := mem_flatMap.1 member
    exact (Graph.mem_edgesFrom_iff.1 leaves).1

/-- **Nothing is left out and nothing is done twice.**  Where the walk through a graph that passes
the check returns the statements of a route, every node that is not an end is emitted once, every
end is emitted once for each edge that leads to it, and every edge is followed once. -/
theorem body_covers_graph {context : Context} {draft last : Draft} {block : Block}
    (valid : validate context.graph = .ok ())
    (walked : body context draft = (.ok block, last)) :
    ∃ route, survey context.graph (notingEmitter context) draft = (.ok route, last) ∧
      route.block = block ∧
      (∀ attempt ∈ attempts context.graph (notingEmitter context) draft,
        attempt.node ∈ context.graph.nodes) ∧
      (∀ node ∈ context.graph.nodes, node.kind ≠ .finish →
        (attempts context.graph (notingEmitter context) draft).countP
          (fun attempt => attempt.node.id = node.id) = 1) ∧
      (∀ node ∈ context.graph.nodes, node.kind = .finish →
        (attempts context.graph (notingEmitter context) draft).countP
            (fun attempt => attempt.node.id = node.id) =
          context.graph.edges.countP fun edge => edge.target = node.id) ∧
      (∀ edge ∈ route.followed, edge ∈ context.graph.edges) ∧
      ∀ edge ∈ context.graph.edges, route.followed.count edge = 1 := by
  have checked := checked_of_validate valid
  obtain ⟨route, surveyed, same⟩ := linearize_eq_ok.1 walked
  obtain ⟨follows, once, -⟩ := survey_leaves (notingEmitter_fits context) surveyed
  have edges := followed_perm_edges checked follows once
  have visits : ∀ id, (attempts context.graph (notingEmitter context) draft).countP
      (fun attempt => attempt.node.id = id) = route.calls.countP fun call => call.node.id = id := by
    intro id
    rw [attempts_eq_calls surveyed, countP_map]
    rfl
  refine ⟨route, surveyed, same, ?_, ?_, ?_, fun edge => edges.mem_iff.1, ?_⟩
  · intro attempt attempted
    rw [attempts_eq_calls surveyed] at attempted
    obtain ⟨call, called, rfl⟩ := mem_map.1 attempted
    exact (Graph.node?_eq_some_iff.1 (follows.known_of_call called).1).1
  · intro node listed inner
    rw [visits]
    have known := Graph.node?_eq_some_iff.2 ⟨listed, rfl⟩
    refine visits_eq_one follows once known inner (follows.visited_of_reaches checked ?_)
    exact checked.reached node.id (Graph.mem_nodeIds_iff.2 ⟨node, known⟩)
  · intro node listed finish
    rw [visits, ← edges.countP_eq]
    have known := Graph.node?_eq_some_iff.2 ⟨listed, rfl⟩
    refine visits_eq_followed follows known finish (fun id entry same => ?_) (not_mem_nil)
    obtain ⟨start, found, kind⟩ := checked.entry
    cases entry
    rw [same, known] at found
    rw [Option.some.inj found, kind] at finish
    cases finish
  · intro edge listed
    rw [edges.count_eq, count_eq_one_of_mem (nodup_edges checked) listed]

/-! ## A loop that its body may leave -/

/-- A loop whose body goes on or ends the run. -/
def polling : Workflow where
  entryId := "s"
  inputSchema := [("properties", .obj [("input_as_text", .obj [])])]
  nodes := [{ id := "s", config := .start }, { id := "w", config := .loop "true" },
    { id := "b", config := .branch ["true"] }, { id := "e", config := .finish {} }]
  edges := [{ source := "s", target := "w" }, { source := "w", target := "b", tag := .loopBody },
    { source := "b", target := "w", tag := .yes }, { source := "b", target := "e", tag := .no },
    { source := "w", target := "e", tag := .loopExit }]

def pollingContext : Context where
  graph := ⟨polling, by decide⟩
  settings := {}
  tools := []

theorem polling_valid : validate pollingContext.graph = .ok () := by cbv

theorem polling_walked : ∃ block last, body pollingContext {} = (.ok block, last) :=
  Stoppable.exists_ok (by decide +kernel)

/-- The end of the loop is emitted on both ways to it. -/
theorem polling_covered :
    validate pollingContext.graph = .ok () ∧
      (attempts pollingContext.graph (notingEmitter pollingContext) {}).countP
        (fun attempt => attempt.node.id = Text.ofString "e") = 2 := by
  obtain ⟨block, last, walked⟩ := polling_walked
  obtain ⟨_, _, _, _, _, ends, _⟩ := body_covers_graph polling_valid walked
  refine ⟨polling_valid, ends { id := "e", config := .finish {} } ?_ rfl⟩
  exact mem_of_getLast? rfl

end AgentFlow.Linear
