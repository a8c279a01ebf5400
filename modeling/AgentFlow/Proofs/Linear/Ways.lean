import AgentFlow.Proofs.Emit.Fitting
import AgentFlow.Proofs.Linear.Walk
import Mathlib.Data.List.Find

/-!
# The ways on from a node are its exits

The check asks for a set of tags, and the walk looks edges up by their tags, one after the other.
For a node that passes the check, the walk looks up exactly the required tags, in their order, and
so finds every outgoing edge once.
-/

namespace AgentFlow.Linear

open List Workflow Emit

variable {graph : Graph} {node : Node} {call : Call} {way : Way} {edge : Edge} {tag : Tag}
  {cases : List Text} {index : Nat}

/-! ## Looked-up edges and exits -/

theorem exit?_eq_edge? (same : ∀ tag, normalizedTag node tag = tag) (tag : Tag) :
    exit? graph node tag = graph.edge? node.id tag := by
  unfold exit? Graph.edge?
  simp only [same]

theorem normalizedTag_of_not_branch (other : ∀ cases, node.config ≠ .branch cases) (tag : Tag) :
    normalizedTag node tag = tag := by
  unfold normalizedTag
  split
  · rename_i single
    exact absurd single (other _)
  · rfl

theorem normalizedTag_branch (config : node.config = .branch cases) (tag : Tag) :
    normalizedTag node tag = if cases.length = 1 ∧ tag = .yes then .case 0 else tag := by
  unfold normalizedTag
  rw [config]
  match cases with
  | [] => simp
  | [_] => simp
  | _ :: _ :: _ => simp

theorem exit?_no (config : node.config = .branch cases) :
    exit? graph node .no = graph.edge? node.id .no := by
  unfold exit? Graph.edge?
  congr 1
  funext edge
  rw [normalizedTag_branch config]
  split
  · rename_i yes
    simp [yes.2]
  · rfl

theorem caseEdge?_eq_exit? (tagged : Tagged graph node) (config : node.config = .branch cases)
    (bound : index < cases.length) :
    caseEdge? graph node.id cases.length index = exit? graph node (.case index) := by
  unfold caseEdge?
  cases found : graph.edge? node.id (.case index) with
  | some edge =>
    obtain ⟨listed, source, tag⟩ := Graph.edge?_some found
    refine (tagged.exit?_eq_some_iff.2 ⟨Graph.mem_edgesFrom_iff.2 ⟨listed, source⟩, ?_⟩).symm
    rw [normalizedTag_branch config, tag, if_neg (by simp)]
  | none =>
    have absent : ∀ edge ∈ graph.edgesFrom node.id, edge.tag ≠ .case index := by
      simpa [Graph.edge?] using found
    by_cases single : cases.length = 1
    · obtain rfl : index = 0 := by omega
      simp only [single, and_self, if_true]
      refine find?_congr fun edge listed => ?_
      rw [normalizedTag_branch config]
      by_cases yes : edge.tag = .yes
      · simp [single, yes]
      · simpa [yes] using absent edge listed
    · simp only [single, and_false, if_false]
      refine (find?_eq_none.2 fun edge listed => ?_).symm
      rw [normalizedTag_branch config, if_neg (fun both => single both.1)]
      simpa using absent edge listed

/-- **The walk looks up exactly the required tags.**  For a node that passes the check, the edges
looked up one after the other are its exits for the required tags, in their order. -/
theorem waysOn_edges (tagged : Tagged graph call.node)
    (fits : call.emission.Fits call.node.config) :
    (waysOn graph call).map Way.edge = (requiredTags call.node).map (exit? graph call.node) := by
  cases config : call.node.config with
  | branch cases =>
    rw [config] at fits
    simp only [waysOn, requiredTags, config, map_append, map_map, map_cons,
      map_nil, exit?_no config, fits.2]
    refine congrArg (· ++ _) (map_congr_left fun index member => ?_)
    exact caseEdge?_eq_exit? tagged config (mem_range.1 member)
  | approval message =>
    rw [config] at fits
    obtain ⟨_, gate, some, _⟩ := fits
    have other : ∀ cases, call.node.config ≠ .branch cases := fun cases => by simp [config]
    simp only [waysOn, requiredTags, config, some, map_cons, map_nil,
      exit?_eq_edge? (normalizedTag_of_not_branch other)]
  | _ =>
    have other : ∀ cases, call.node.config ≠ .branch cases := fun cases => by simp [config]
    simp only [waysOn, requiredTags, config, map_cons, map_nil,
      exit?_eq_edge? (normalizedTag_of_not_branch other)]

/-! ## Every outgoing edge once -/

theorem exits_perm (tagged : Tagged graph node) :
    ((requiredTags node).filterMap (exit? graph node)).Perm (graph.edgesFrom node.id) := by
  have distinct : (graph.edgesFrom node.id).Nodup := List.Nodup.of_map _ tagged.distinct
  refine (perm_ext_iff_of_nodup ((nodup_requiredTags node).filterMap ?_) distinct).2 ?_
  · intro first second edge one two
    rw [← (tagged.exit?_eq_some_iff.1 one).2, ← (tagged.exit?_eq_some_iff.1 two).2]
  · intro edge
    constructor
    · intro member
      obtain ⟨tag, _, found⟩ := mem_filterMap.1 member
      exact (tagged.exit?_eq_some_iff.1 found).1
    · intro listed
      exact mem_filterMap.2 ⟨normalizedTag node edge.tag,
        tagged.expected _ (mem_map_of_mem listed),
        tagged.exit?_eq_some_iff.2 ⟨listed, rfl⟩⟩

theorem waysOn_perm (tagged : Tagged graph call.node)
    (fits : call.emission.Fits call.node.config) :
    ((waysOn graph call).filterMap Way.edge).Perm (graph.edgesFrom call.node.id) := by
  have same : (waysOn graph call).filterMap Way.edge =
      (requiredTags call.node).filterMap (exit? graph call.node) := by
    have looked := congrArg (List.filterMap id) (waysOn_edges tagged fits)
    rwa [filterMap_map, filterMap_map] at looked
  rw [same]
  exact exits_perm tagged

/-! ## Open loops along a way -/

/-- The loops that are open once an edge is followed: an edge into the body of a loop opens it. -/
def openAfter (opened : List Text) (edge : Edge) : List Text :=
  if edge.tag = .loopBody then opened ++ [edge.source] else opened

theorem caseEdge?_some {id : Text} {cases : Nat}
    (found : caseEdge? graph id cases index = some edge) :
    edge ∈ graph.edges ∧ edge.source = id ∧ edge.tag ≠ .loopBody := by
  unfold caseEdge? at found
  split at found
  · rename_i other case
    cases found
    obtain ⟨listed, source, tag⟩ := Graph.edge?_some case
    exact ⟨listed, source, by simp [tag]⟩
  · split at found
    · obtain ⟨listed, source, tag⟩ := Graph.edge?_some found
      exact ⟨listed, source, by simp [tag]⟩
    · cases found

theorem openLoops_rejectedPath (graph : Graph) (edge : Option Edge) (path : Path) :
    (rejectedPath graph edge path).openLoops = path.openLoops := by
  unfold rejectedPath
  split <;> rfl

theorem not_finish_of_way (member : way ∈ waysOn graph call) : call.node.kind ≠ .finish := by
  intro finish
  cases config : call.node.config <;> simp [waysOn, config, Node.kind, Config.kind] at member finish

/-- What a way on from a node can be: one of the cases of a branch, the way into the body of a loop,
or one that opens no loop. -/
inductive IsWay (graph : Graph) (call : Call) : Way → Prop
  | case (cases index : Nat) :
      IsWay graph call ⟨caseEdge? graph call.node.id cases index, call.path⟩
  | body {condition} (loop : call.node.config = .loop condition) :
      IsWay graph call ⟨graph.edge? call.node.id .loopBody, call.path.entering call.node.id⟩
  | past {tag : Tag} (other : tag ≠ .loopBody) :
      IsWay graph call ⟨graph.edge? call.node.id tag, call.path⟩
  | after {tag : Tag} (other : tag ≠ .loopBody) :
      IsWay graph call ⟨graph.edge? call.node.id tag, call.path.after call.emission⟩
  | rejected (edge : Option Edge) :
      IsWay graph call ⟨graph.edge? call.node.id .reject, rejectedPath graph edge call.path⟩

theorem isWay_of_mem (member : way ∈ waysOn graph call) : IsWay graph call way := by
  unfold waysOn at member
  dsimp only at member
  split at member
  · cases member
  · rcases mem_append.1 member with case | other
    · obtain ⟨index, _, rfl⟩ := mem_map.1 case
      exact .case _ index
    · exact mem_singleton.1 other ▸ .past nofun
  · rename_i loop
    rcases mem_pair.1 member with rfl | rfl
    · exact .body loop
    · exact .past nofun
  · split at member
    · exact mem_singleton.1 member ▸ .after nofun
    · rcases mem_pair.1 member with rfl | rfl
      · exact .after nofun
      · exact .rejected _
  · exact mem_singleton.1 member ▸ .after nofun

/-- Along a way the same loops are open as before, or the loop of the node itself as well. -/
theorem openLoops_along (member : way ∈ waysOn graph call) :
    way.path.openLoops = call.path.openLoops ∨ (∃ condition, call.node.config = .loop condition) ∧
      way.path.openLoops = call.path.openLoops ++ [call.node.id] := by
  cases isWay_of_mem member with
  | body loop => exact .inr ⟨⟨_, loop⟩, rfl⟩
  | case | past | after => exact .inl rfl
  | rejected edge => exact .inl (openLoops_rejectedPath ..)

/-- The only loop that can be open along a way and is not open before is that of the node itself. -/
theorem opened_of_way (member : way ∈ waysOn graph call) {id : Text}
    (opened : id ∈ way.path.openLoops) : id ∈ call.path.openLoops ∨ id = call.node.id := by
  rcases openLoops_along member with same | ⟨_, more⟩
  · exact .inl (same ▸ opened)
  · rw [more] at opened
    exact (mem_append.1 opened).imp_right mem_singleton.1

/-- The path along a way has the loops open that the edge leaves open. -/
theorem openLoops_of_way (member : way ∈ waysOn graph call) (found : way.edge = some edge) :
    edge ∈ graph.edges ∧ edge.source = call.node.id ∧
      way.path.openLoops = openAfter call.path.openLoops edge := by
  have keeps : ∀ {tag : Tag} {path : Path}, tag ≠ .loopBody →
      path.openLoops = call.path.openLoops → graph.edge? call.node.id tag = some edge →
        edge ∈ graph.edges ∧ edge.source = call.node.id ∧
          path.openLoops = openAfter call.path.openLoops edge := by
    intro tag path other same looked
    obtain ⟨listed, source, rfl⟩ := Graph.edge?_some looked
    exact ⟨listed, source, by rw [openAfter, if_neg other, same]⟩
  cases isWay_of_mem member with
  | case =>
    obtain ⟨listed, source, other⟩ := caseEdge?_some found
    exact ⟨listed, source, by rw [openAfter, if_neg other]⟩
  | body =>
    obtain ⟨listed, source, tag⟩ := Graph.edge?_some found
    exact ⟨listed, source, by rw [openAfter, if_pos tag, source]; rfl⟩
  | past other | after other => exact keeps other rfl found
  | rejected edge => exact keeps (by decide) (openLoops_rejectedPath ..) found

end AgentFlow.Linear
