import AgentFlow.Workflow.Validate
import Mathlib.Data.List.Nodup
import Mathlib.Logic.Relation

/-!
# What a checked graph satisfies

A graph without problems has an entry, edges that join nodes, a fixed set of exits for every node,
and no node that the entry does not reach.  The check lists problems; here its silence is turned
into the facts that a walk through the graph relies on.
-/

namespace AgentFlow

open List

theorem find?_key_eq_some_iff {α κ : Type} [DecidableEq κ] {key : α → κ} {items : List α}
    (distinct : (items.map key).Nodup) {wanted : κ} {item : α} :
    items.find? (fun other => key other = wanted) = some item ↔
      item ∈ items ∧ key item = wanted := by
  constructor
  · intro found
    exact ⟨mem_of_find?_eq_some found, by simpa using find?_some found⟩
  · rintro ⟨member, rfl⟩
    have some : (items.find? fun other => key other = key item).isSome :=
      find?_isSome.2 ⟨item, member, decide_eq_true rfl⟩
    obtain ⟨other, found⟩ := Option.isSome_iff_exists.1 some
    have same : key other = key item := by simpa using find?_some found
    rw [found, inj_on_of_nodup_map distinct (mem_of_find?_eq_some found) member same]

theorem Text.mem_of_mem_dedup {texts : List Text} {text : Text} (member : text ∈ Text.dedup texts) :
    text ∈ texts := by
  have kept : ∀ (texts seen : List Text),
      text ∈ texts.foldl (fun kept t => if t ∈ kept then kept else kept ++ [t]) seen →
        text ∈ seen ∨ text ∈ texts := by
    intro texts
    induction texts with
    | nil => exact fun seen found => .inl found
    | cons head tail ih =>
      intro seen found
      rw [foldl_cons] at found
      rcases ih _ found with old | new
      · split at old
        · exact .inl old
        · rcases mem_append.1 old with old | here
          · exact .inl old
          · exact .inr (mem_singleton.1 here ▸ mem_cons_self)
      · exact .inr (mem_cons_of_mem _ new)
  rcases kept texts [] member with none | found
  · cases none
  · exact found

namespace Workflow

variable {graph : Graph} {node : Node} {edge : Edge} {id : Text} {tag : Tag}

namespace Graph

/-! ## Looking up nodes and edges -/

theorem node?_eq_some_iff : graph.node? id = some node ↔ node ∈ graph.nodes ∧ node.id = id :=
  find?_key_eq_some_iff graph.distinct

theorem mem_nodeIds_iff : id ∈ graph.nodeIds ↔ ∃ node, graph.node? id = some node := by
  constructor
  · intro member
    obtain ⟨node, listed, same⟩ := mem_map.1 member
    exact ⟨node, node?_eq_some_iff.2 ⟨listed, same⟩⟩
  · rintro ⟨node, found⟩
    obtain ⟨listed, same⟩ := node?_eq_some_iff.1 found
    exact mem_map.2 ⟨node, listed, same⟩

theorem mem_edgesFrom_iff : edge ∈ graph.edgesFrom id ↔ edge ∈ graph.edges ∧ edge.source = id := by
  simp [edgesFrom]

theorem edge?_some (found : graph.edge? id tag = some edge) :
    edge ∈ graph.edges ∧ edge.source = id ∧ edge.tag = tag := by
  obtain ⟨listed, source⟩ := mem_edgesFrom_iff.1 (mem_of_find?_eq_some found)
  exact ⟨listed, source, by simpa using find?_some found⟩

/-! ## Reaching nodes -/

def Leads (graph : Graph) (first second : Text) : Prop :=
  ∃ edge ∈ graph.edges, edge.source = first ∧ edge.target = second

/-- A sequence of edges leads from one node to another. -/
abbrev Reaches (graph : Graph) : Text → Text → Prop := Relation.ReflTransGen graph.Leads

theorem leads_of_mem_targets {target : Text} (member : target ∈ graph.targets id) :
    graph.Leads id target := by
  obtain ⟨edge, listed, rfl⟩ := mem_map.1 (mem_of_mem_filter member)
  obtain ⟨listed, source⟩ := mem_edgesFrom_iff.1 listed
  exact ⟨edge, listed, source, rfl⟩

theorem reaches_of_mem_reachFrom {start : Text} :
    ∀ (rounds : Nat) (seen fresh : List Text), (∀ id ∈ seen, graph.Reaches start id) →
      (∀ id ∈ fresh, graph.Reaches start id) →
        ∀ id ∈ graph.reachFrom rounds seen fresh, graph.Reaches start id
  | 0, _, _, known, _, id, member => known id member
  | rounds + 1, seen, fresh, known, last, id, member => by
    have found : ∀ id ∈ graph.discover seen fresh, graph.Reaches start id := by
      intro id new
      obtain ⟨source, old, target⟩ :=
        mem_flatMap.1 (mem_of_mem_filter (Text.mem_of_mem_dedup new))
      exact (last source old).tail (leads_of_mem_targets target)
    simp only [reachFrom] at member
    split at member
    · exact known id member
    · refine reaches_of_mem_reachFrom rounds _ _ ?_ found id member
      intro id old
      rcases mem_append.1 old with old | new
      · exact known id old
      · exact found id new

theorem reaches_of_mem_reachable {start : Text} (member : id ∈ graph.reachable start) :
    graph.Reaches start id := by
  refine reaches_of_mem_reachFrom _ [start] [start] ?_ ?_ id member <;>
  · intro other here
    exact mem_singleton.1 here ▸ .refl

end Graph

/-! ## Exits -/

/-- The edge by which a node is left for an outcome; the only case of a branch may be tagged as
true. -/
def exit? (graph : Graph) (node : Node) (tag : Tag) : Option Edge :=
  (graph.edgesFrom node.id).find? fun edge => normalizedTag node edge.tag = tag

/-- The tags that the outgoing edges of a node count as. -/
def outgoingTags (graph : Graph) (node : Node) : List Tag :=
  (graph.edgesFrom node.id).map fun edge => normalizedTag node edge.tag

/-- The tags of a node's outgoing edges are right: no two edges count as the same, every edge counts
as one of the required tags, and none of these is missing unless the node is the last of a chain. -/
structure Tagged (graph : Graph) (node : Node) : Prop where
  distinct : (outgoingTags graph node).Nodup
  expected : ∀ tag ∈ outgoingTags graph node, tag ∈ requiredTags node
  complete : node.kind.isLinear = false → ∀ tag ∈ requiredTags node, tag ∈ outgoingTags graph node
  cases : node.config ≠ .branch []

theorem nodup_requiredTags (node : Node) : (requiredTags node).Nodup := by
  unfold requiredTags
  cases node.config with
  | branch conditions =>
    refine nodup_append.2 ⟨?_, nodup_singleton _, ?_⟩
    · exact nodup_range.map fun first second same => Tag.case.inj same
    · simp
  | _ => simp

theorem nodup_of_no_repeated {tags : List Tag}
    (silent : ((sortTags tags.eraseDups).filterMap fun tag =>
      if 1 < tags.count tag then some (Problem.repeatedTag id (tags.count tag) tag) else none) =
        []) : tags.Nodup := by
  rw [nodup_iff_count]
  intro tag
  by_cases member : tag ∈ tags
  · have listed : tag ∈ sortTags tags.eraseDups := by
      simpa [sortTags, mem_mergeSort] using member
    have single := filterMap_eq_nil_iff.1 silent tag listed
    by_contra more
    simp [Nat.lt_of_not_le more] at single
  · simp [count_eq_zero_of_not_mem member]

theorem mem_of_no_missing {tags : List Tag} {kind : Kind}
    (silent : ((sortTags ((requiredTags node).filter (· ∉ tags))).map fun tag =>
      Problem.missingTag id kind tag) = []) (required : tag ∈ requiredTags node) : tag ∈ tags := by
  by_contra missing
  have listed : tag ∈ sortTags ((requiredTags node).filter (· ∉ tags)) := by
    simpa [sortTags, mem_mergeSort] using ⟨required, missing⟩
  rw [map_eq_nil_iff.1 silent] at listed
  cases listed

theorem tagged_of_no_problems (silent : tagProblems graph node = []) : Tagged graph node := by
  unfold tagProblems at silent
  simp only at silent
  split at silent
  · exact absurd (append_eq_nil_iff.1 silent).2 (cons_ne_nil _ _)
  · rename_i nonempty
    split at silent
    · rename_i dangling
      rw [Bool.and_eq_true, List.isEmpty_iff] at dangling
      obtain ⟨linear, empty⟩ : node.kind.isLinear = true ∧ outgoingTags graph node = [] := dangling
      refine ⟨empty ▸ nodup_nil, ?_, ?_, nonempty⟩
      · intro tag member
        rw [empty] at member
        cases member
      · intro branching
        rw [linear] at branching
        cases branching
    · obtain ⟨rest, invalid⟩ := append_eq_nil_iff.1 silent
      obtain ⟨repeated, missing⟩ := append_eq_nil_iff.1 rest
      refine ⟨nodup_of_no_repeated repeated, ?_, fun _ tag => mem_of_no_missing missing, nonempty⟩
      intro tag member
      obtain ⟨edge, listed, rfl⟩ := mem_map.1 member
      simpa using filter_eq_nil_iff.1 (map_eq_nil_iff.1 invalid) edge listed

namespace Tagged

variable (tagged : Tagged graph node)
include tagged

theorem exit?_eq_some_iff : exit? graph node tag = some edge ↔
    edge ∈ graph.edgesFrom node.id ∧ normalizedTag node edge.tag = tag :=
  find?_key_eq_some_iff tagged.distinct

/-- A node whose kind is not one of a chain has an exit for every outcome. -/
theorem exists_exit (branching : node.kind.isLinear = false) (required : tag ∈ requiredTags node) :
    ∃ edge, exit? graph node tag = some edge := by
  obtain ⟨edge, listed, same⟩ := mem_map.1 (tagged.complete branching tag required)
  exact ⟨edge, tagged.exit?_eq_some_iff.2 ⟨listed, same⟩⟩

end Tagged

/-! ## Checked graphs -/

/-- What the checks establish about the structure of a graph. -/
structure Checked (graph : Graph) : Prop where
  entry : ∃ node, graph.node? graph.entryId = some node ∧ node.kind = .start
  joined : ∀ edge ∈ graph.edges, edge.source ∈ graph.nodeIds ∧ edge.target ∈ graph.nodeIds
  tagged : ∀ node ∈ graph.nodes, Tagged graph node
  reached : ∀ id ∈ graph.nodeIds, graph.Reaches graph.entryId id

theorem entry_of_no_problems (silent : entryProblems graph = []) :
    ∃ node, graph.node? graph.entryId = some node ∧ node.kind = .start := by
  unfold entryProblems at silent
  split at silent
  · cases silent
  · rename_i node found
    split at silent
    · rename_i start
      exact ⟨node, found, start⟩
    · cases silent

theorem joined_of_no_problems (silent : edgeProblems graph = []) (listed : edge ∈ graph.edges) :
    edge.source ∈ graph.nodeIds ∧ edge.target ∈ graph.nodeIds := by
  obtain ⟨source, target⟩ := append_eq_nil_iff.1 (flatMap_eq_nil_iff.1 silent edge listed)
  constructor
  · by_contra unknown
    simp [unknown] at source
  · by_contra unknown
    simp [unknown] at target

theorem reached_of_no_problems (silent : reachProblems graph = [])
    (entry : graph.entryId ∈ graph.nodeIds) (listed : id ∈ graph.nodeIds) :
    graph.Reaches graph.entryId id := by
  refine Graph.reaches_of_mem_reachable ?_
  by_contra missing
  unfold reachProblems at silent
  rw [if_pos entry, map_eq_nil_iff] at silent
  simpa [missing] using filter_eq_nil_iff.1 silent id listed

/-- The check passes when the names of the input can be read, there are no problems, and the schema
of the input is right. -/
theorem validate_eq_ok_iff : validate graph = .ok () ↔
    ∃ fields, graph.inputFieldNames = .ok fields ∧ problems graph fields = [] ∧
      checkSchema (.obj graph.workflow.inputSchema) "input_schema" = .ok () := by
  unfold validate
  cases graph.inputFieldNames with
  | error fault => simp [liftShape, bind, Except.bind]
  | ok fields =>
    simp only [liftShape, bind, Except.bind, Except.ok.injEq, exists_eq_left']
    split
    · rename_i silent
      simp [silent]
    · rename_i loud
      have found : problems graph fields ≠ [] := loud
      simp [found]

theorem checked_of_validate (valid : validate graph = .ok ()) : Checked graph := by
  obtain ⟨names, _, silent, _⟩ := validate_eq_ok_iff.1 valid
  simp only [problems, append_eq_nil_iff, flatMap_eq_nil_iff] at silent
  obtain ⟨⟨⟨⟨⟨entry, _⟩, edges⟩, tags⟩, reach⟩, _⟩ := silent
  obtain ⟨start, found, kind⟩ := entry_of_no_problems entry
  refine ⟨⟨start, found, kind⟩, fun edge => joined_of_no_problems edges,
    fun node listed => tagged_of_no_problems (tags node listed), fun id => ?_⟩
  exact reached_of_no_problems reach (Graph.mem_nodeIds_iff.2 ⟨start, found⟩)

end Workflow

end AgentFlow
