import AgentFlow.Proofs.Workflow.WellFormed
import Mathlib.SetTheory.Cardinal.Arithmetic

/-!
# Workflows under other ids

A workflow stays the same graph when its nodes and edges are listed in another order, its ids are
replaced one for one, and its labels and name change.  A map that keeps the ids of the nodes apart
can be extended to a permutation of all texts, so the proofs work with permutations.
-/

namespace AgentFlow.Workflow

open List

def Edge.renamed (rename : Text → Text) (edge : Edge) : Edge where
  source := rename edge.source
  target := rename edge.target
  tag := edge.tag

/-- A workflow is another one with other ids, whose nodes and edges may stand in another order, with
other labels and another name. -/
structure Renames (rename : Text → Text) (workflow other : Workflow) : Prop where
  entry : other.entryId = rename workflow.entryId
  state : other.state = workflow.state
  inputSchema : other.inputSchema = workflow.inputSchema
  inputTextField : other.inputTextField = workflow.inputTextField
  nodes : (other.nodes.map fun node => (node.id, node.config)).Perm
    (workflow.nodes.map fun node => (rename node.id, node.config))
  edges : other.edges.Perm (workflow.edges.map (Edge.renamed rename))

namespace Renames

variable {rename : Text → Text} {workflow other : Workflow}

variable (renames : Renames rename workflow other)
include renames

theorem mem_nodes {node : Node}
    (listed : node ∈ other.nodes) :
    ∃ original ∈ workflow.nodes, node.id = rename original.id ∧ node.config = original.config := by
  have member := renames.nodes.mem_iff.1 (mem_map_of_mem listed)
  obtain ⟨original, known, same⟩ := mem_map.1 member
  exact ⟨original, known, (Prod.mk.inj same).1.symm, (Prod.mk.inj same).2.symm⟩

theorem exists_node {node : Node}
    (listed : node ∈ workflow.nodes) :
    ∃ renamed ∈ other.nodes, renamed.id = rename node.id ∧ renamed.config = node.config := by
  have member := renames.nodes.mem_iff.2 (mem_map_of_mem listed)
  obtain ⟨renamed, known, same⟩ := mem_map.1 member
  exact ⟨renamed, known, (Prod.mk.inj same).1, (Prod.mk.inj same).2⟩

theorem mem_edges {edge : Edge} :
    edge ∈ other.edges ↔ ∃ original ∈ workflow.edges, original.renamed rename = edge :=
  renames.edges.mem_iff.trans mem_map

theorem ids_perm :
    (other.nodes.map Node.id).Perm ((workflow.nodes.map Node.id).map rename) := by
  have ids := renames.nodes.map Prod.fst
  simpa only [map_map, Function.comp_def] using ids

theorem congr {rename' : Text → Text} (entry : rename workflow.entryId = rename' workflow.entryId)
    (nodes : ∀ node ∈ workflow.nodes, rename node.id = rename' node.id)
    (edges : ∀ edge ∈ workflow.edges, rename edge.source = rename' edge.source ∧
      rename edge.target = rename' edge.target) :
    Renames rename' workflow other where
  entry := renames.entry.trans entry
  state := renames.state
  inputSchema := renames.inputSchema
  inputTextField := renames.inputTextField
  nodes := by
    have same : (workflow.nodes.map fun node => (rename node.id, node.config)) =
        workflow.nodes.map fun node => (rename' node.id, node.config) :=
      map_congr_left fun node listed => by rw [nodes node listed]
    exact same ▸ renames.nodes
  edges := by
    have same : workflow.edges.map (Edge.renamed rename) =
        workflow.edges.map (Edge.renamed rename') :=
      map_congr_left fun edge listed => by
        rw [Edge.renamed, Edge.renamed, (edges edge listed).1, (edges edge listed).2]
    exact same ▸ renames.edges

omit renames

theorem symm {rename : Equiv.Perm Text} (renames : Renames rename workflow other) :
    Renames rename.symm other workflow where
  entry := by rw [renames.entry, Equiv.symm_apply_apply]
  state := renames.state.symm
  inputSchema := renames.inputSchema.symm
  inputTextField := renames.inputTextField.symm
  nodes := by
    have back := (renames.nodes.map fun pair => (rename.symm pair.1, pair.2)).symm
    simpa only [map_map, Function.comp_def, Equiv.symm_apply_apply] using back
  edges := by
    have back := (renames.edges.map (Edge.renamed rename.symm)).symm
    have round : Edge.renamed rename.symm ∘ Edge.renamed rename = id := by
      funext edge
      simp [Edge.renamed]
    rwa [map_map, round, map_id] at back

end Renames

/-- A map that keeps finitely many ids apart can be extended to a permutation. -/
theorem exists_perm_of_injOn {rename : Text → Text} (ids : List Text)
    (injective : Set.InjOn rename {id | id ∈ ids}) :
    ∃ perm : Equiv.Perm Text, ∀ id ∈ ids, perm id = rename id := by
  have few : Cardinal.mk {id | id ∈ ids} < Cardinal.mk Text :=
    (Cardinal.lt_aleph0_iff_set_finite.2 (finite_toSet ids)).trans_le
      (Cardinal.infinite_iff.1 (inferInstanceAs (Infinite (List CodePoint))))
  obtain ⟨perm, same⟩ := Cardinal.extend_function_of_lt
    ⟨fun id : {id | id ∈ ids} => rename id, fun first second equal =>
      Subtype.ext (injective first.2 second.2 equal)⟩ few ⟨Equiv.refl Text⟩
  exact ⟨perm, fun id listed => same ⟨id, listed⟩⟩

/-! ## Nodes and edges under their new ids -/

section Graphs

variable {graph other : Graph} {rename : Equiv.Perm Text} {id first second : Text}
  {node renamed : Node} {tag : Tag}

theorem kind_congr (config : renamed.config = node.config) : renamed.kind = node.kind := by
  unfold Node.kind
  rw [config]

theorem Checked.distinctTags (checked : Checked graph) (id : Text) :
    ((graph.edgesFrom id).map Edge.tag).Nodup := by
  by_cases known : id ∈ graph.nodeIds
  · obtain ⟨node, listed, rfl⟩ := mem_map.1 known
    have distinct := (checked.tagged node listed).distinct
    unfold outgoingTags at distinct
    have composed : (fun edge : Edge => normalizedTag node edge.tag) =
        normalizedTag node ∘ Edge.tag := rfl
    rw [composed, ← map_map] at distinct
    exact distinct.of_map _
  · have none : graph.edgesFrom id = [] := by
      refine eq_nil_iff_forall_not_mem.2 fun edge listed => known ?_
      obtain ⟨there, rfl⟩ := Graph.mem_edgesFrom_iff.1 listed
      exact (checked.joined edge there).1
    rw [none]
    exact nodup_nil

variable (renames : Renames rename graph.workflow other.workflow)
include renames

theorem mem_nodeIds_renamed : rename id ∈ other.nodeIds ↔ id ∈ graph.nodeIds := by
  refine renames.ids_perm.mem_iff.trans ?_
  exact mem_map_of_injective rename.injective

theorem node?_renamed (id : Text) :
    (other.node? (rename id)).map Node.config = (graph.node? id).map Node.config := by
  cases found : graph.node? id with
  | some node =>
    obtain ⟨listed, rfl⟩ := Graph.node?_eq_some_iff.1 found
    obtain ⟨renamed, known, same, config⟩ := renames.exists_node listed
    rw [Graph.node?_eq_some_iff.2 ⟨known, same⟩]
    exact congrArg some config
  | none =>
    cases found' : other.node? (rename id) with
    | none => rfl
    | some renamed =>
      have known := Graph.mem_nodeIds_iff.2 ⟨renamed, found'⟩
      obtain ⟨node, there⟩ :=
        Graph.mem_nodeIds_iff.1 ((mem_nodeIds_renamed renames).1 known)
      rw [found] at there
      cases there

theorem edgesFrom_renamed (id : Text) :
    (other.edgesFrom (rename id)).Perm ((graph.edgesFrom id).map (Edge.renamed rename)) := by
  refine (renames.edges.filter _).trans (List.Perm.of_eq ?_)
  unfold Graph.edgesFrom Graph.edges
  rw [filter_map]
  refine congrArg _ (filter_congr fun edge _ => ?_)
  simp [Edge.renamed]

theorem tags_renamed (same : renamed.id = rename node.id) :
    ((other.edgesFrom renamed.id).map Edge.tag).Perm ((graph.edgesFrom node.id).map Edge.tag) := by
  rw [same]
  refine ((edgesFrom_renamed renames node.id).map _).trans (List.Perm.of_eq ?_)
  rw [map_map]
  rfl

theorem leads_renamed (leads : graph.Leads first second) :
    other.Leads (rename first) (rename second) := by
  obtain ⟨edge, listed, rfl, rfl⟩ := leads
  exact ⟨_, renames.mem_edges.2 ⟨edge, listed, rfl⟩, rfl, rfl⟩

theorem continues_renamed (onward : graph.Continues first second) :
    other.Continues (rename first) (rename second) := by
  obtain ⟨edge, listed, other, rfl, rfl⟩ := onward
  exact ⟨_, renames.mem_edges.2 ⟨edge, listed, rfl⟩, other, rfl, rfl⟩

/-! ## The check under new ids -/

/-- **The check accepts a graph under any ids.** -/
theorem validate_renamed (valid : validate graph = .ok ()) : validate other = .ok () := by
  obtain ⟨fields, named, silent, schema⟩ := validate_eq_ok_iff.1 valid
  have named' : other.inputFieldNames = .ok fields := by
    unfold Graph.inputFieldNames Graph.inputFields at named ⊢
    rw [renames.inputSchema]
    exact named
  refine validate_eq_ok_iff.2 ⟨fields, named', ?_, renames.inputSchema ▸ schema⟩
  simp only [problems, append_eq_nil_iff, flatMap_eq_nil_iff, map_eq_nil_iff,
    tagProblems_eq_nil_iff] at silent ⊢
  obtain ⟨⟨⟨⟨⟨entry, field⟩, edges⟩, tags⟩, reach⟩, cycles⟩ := silent
  obtain ⟨start, listed, same, kind⟩ := entryProblems_eq_nil_iff.1 entry
  have joined := edgeProblems_eq_nil_iff.1 edges
  have joined' : ∀ edge ∈ other.edges, edge.source ∈ other.nodeIds ∧
    edge.target ∈ other.nodeIds := by
    intro edge listed
    obtain ⟨original, known, rfl⟩ := renames.mem_edges.1 listed
    exact ⟨(mem_nodeIds_renamed renames).2 (joined original known).1,
      (mem_nodeIds_renamed renames).2 (joined original known).2⟩
  have known : graph.entryId ∈ graph.nodeIds := same ▸ mem_map_of_mem listed
  have known' : other.entryId ∈ other.nodeIds := by
    unfold Graph.entryId
    rw [renames.entry]
    exact (mem_nodeIds_renamed renames).2 known
  refine ⟨⟨⟨⟨⟨?_, ?_⟩, edgeProblems_eq_nil_iff.2 joined'⟩, ?_⟩, ?_⟩, ?_⟩
  · obtain ⟨renamed, there, under, config⟩ := renames.exists_node listed
    refine entryProblems_eq_nil_iff.2 ⟨renamed, there, ?_, (kind_congr config).trans kind⟩
    rw [under, same]
    exact renames.entry.symm
  · rw [renames.inputTextField]
    exact field
  · intro renamed listed
    obtain ⟨node, there, under, config⟩ := renames.mem_nodes listed
    obtain ⟨cases, right⟩ := tags node there
    rw [config]
    exact ⟨cases, right.perm (tags_renamed renames under)⟩
  · refine (reachProblems_eq_nil_iff known' fun edge listed => (joined' edge listed).2).2 ?_
    have reached := (reachProblems_eq_nil_iff known fun edge listed =>
      (joined edge listed).2).1 reach
    intro id listed
    obtain ⟨node, there, rfl⟩ := mem_map.1 listed
    obtain ⟨original, here, under, _⟩ := renames.mem_nodes there
    rw [under, show other.entryId = rename graph.entryId from renames.entry]
    exact (reached original.id (mem_map_of_mem here)).lift rename fun _ _ => leads_renamed renames
  · refine Graph.unlabeledCycles_eq_nil fun id cycle => ?_
    have back := cycle.lift rename.symm fun _ _ => continues_renamed renames.symm
    exact Graph.acyclic_of_silent (fun edge listed => (joined edge listed).2) cycles _ back

theorem edge?_renamed (checked : Checked graph) (checked' : Checked other) (id : Text) (tag : Tag) :
    other.edge? (rename id) tag = (graph.edge? id tag).map (Edge.renamed rename) := by
  have perm := edgesFrom_renamed renames id
  refine Option.ext fun edge => ?_
  rw [Option.map_eq_some_iff]
  refine (find?_key_eq_some_iff (checked'.distinctTags (rename id))).trans ?_
  constructor
  · rintro ⟨listed, rfl⟩
    obtain ⟨original, there, rfl⟩ := mem_map.1 (perm.mem_iff.1 listed)
    exact ⟨original, (find?_key_eq_some_iff (checked.distinctTags id)).2 ⟨there, rfl⟩, rfl⟩
  · rintro ⟨original, found, rfl⟩
    obtain ⟨there, same⟩ := (find?_key_eq_some_iff (checked.distinctTags id)).1 found
    exact ⟨perm.mem_iff.2 (mem_map_of_mem there), same⟩

end Graphs

end AgentFlow.Workflow
