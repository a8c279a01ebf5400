import AgentFlow.Proofs.Stoppable
import AgentFlow.Proofs.Workflow.Tour

/-!
# Well-formed graphs

What it means for a graph to be well formed, stated without the functions of the check: which tags
the edges of a node have as a collection, which nodes edges lead to, and that edges other than those
into loop bodies never come back.  If the properties of the input are an object, the check finds no
problem exactly on these graphs; otherwise it may take a list of pairs for one.
-/

namespace AgentFlow.Workflow

open List

variable {graph : Graph} {node : Node} {id : Text}

/-- The tags that the outgoing edges of a node may have, in any order. -/
def AllowsTags : Config → List Tag → Prop
  | .finish _, tags => tags = []
  | .loop _, tags => tags.Perm [.loopBody, .loopExit]
  | .approval _, tags => tags.Perm [.approve, .reject]
  | .branch conditions, tags => tags.Perm ((range conditions.length).map .case ++ [.no]) ∨
    conditions.length = 1 ∧ tags.Perm [.yes, .no]
  | .start, tags | .agent _, tags | .functionTool _, tags | .transform _, tags
  | .setState _, tags | .fileSearch _, tags | .mcpTool _, tags | .guardrail _, tags =>
    tags = [] ∨ tags = [.plain]

/-- On a branch with a single case, the tag for true is read as that case. -/
theorem perm_single_case {tags : List Tag} {condition : Text}
    (single : node.config = .branch [condition]) :
    (tags.map (normalizedTag node)).Perm [.case 0, .no] ↔
      tags.Perm [.case 0, .no] ∨ tags.Perm [.yes, .no] := by
  have read (tag : Tag) : normalizedTag node tag = if tag = .yes then .case 0 else tag := by
    rw [normalizedTag, single]
  constructor
  · intro perm
    obtain ⟨a, b, rfl⟩ := length_eq_two.1 (length_map (normalizedTag node) ▸ perm.length_eq)
    have isCase {tag : Tag} (same : normalizedTag node tag = .case 0) :
        tag = .case 0 ∨ tag = .yes := by
      rw [read] at same
      split at same
      · next yes => exact .inr yes
      · exact .inl same
    have isNo {tag : Tag} (same : normalizedTag node tag = .no) : tag = .no := by
      rw [read] at same
      split at same
      · cases same
      · exact same
    simp only [map_cons, map_nil] at perm
    have first := perm.subset mem_cons_self
    have second := perm.subset (mem_cons_of_mem _ mem_cons_self)
    simp only [mem_cons, not_mem_nil, or_false] at first second
    rcases first with first | first <;> rcases second with second | second
    · rw [first, second] at perm
      exact absurd perm (by decide)
    · cases isNo second
      rcases isCase first with rfl | rfl
      · exact .inl (.refl _)
      · exact .inr (.refl _)
    · cases isNo first
      rcases isCase second with rfl | rfl
      · exact .inl (.swap _ _ _)
      · exact .inr (.swap _ _ _)
    · rw [first, second] at perm
      exact absurd perm (by decide)
  · rintro (perm | perm)
    · exact perm.map _ |>.trans (by simp [read])
    · exact perm.map _ |>.trans (by simp [read])

/-- The tags that the check asks for are those that are allowed. -/
theorem allowsTags_iff {tags : List Tag} :
    ((tags.map (normalizedTag node)).Perm (requiredTags node) ∨
      node.kind.isLinear = true ∧ tags.map (normalizedTag node) = []) ↔
        AllowsTags node.config tags := by
  by_cases single : ∃ condition, node.config = .branch [condition]
  · obtain ⟨condition, single⟩ := single
    have required : requiredTags node = [.case 0, .no] := by rw [requiredTags, single]; rfl
    have branching : node.kind.isLinear = false := by rw [Node.kind, single]; rfl
    rw [required, perm_single_case single, single, AllowsTags, branching]
    simp
  · have read : tags.map (normalizedTag node) = tags := by
      refine map_id'' (fun tag => ?_) tags
      unfold normalizedTag
      split
      · next condition same => exact absurd ⟨condition, same⟩ single
      · rfl
    rw [read]
    unfold requiredTags Node.kind
    cases config : node.config with
    | branch conditions =>
      have several : conditions.length ≠ 1 := fun one => by
        obtain ⟨condition, rfl⟩ := length_eq_one_iff.1 one
        exact single ⟨condition, config⟩
      simp [AllowsTags, several, Config.kind, Kind.isLinear]
    | _ => simp [AllowsTags, Config.kind, Kind.isLinear, or_comm]

theorem AllowsTags.perm {config : Config} {tags others : List Tag}
    (allowed : AllowsTags config tags)
    (same : others.Perm tags) : AllowsTags config others := by
  cases config with
  | finish => exact (allowed ▸ same).eq_nil
  | loop | approval => exact same.trans allowed
  | branch => exact allowed.imp same.trans fun single => ⟨single.1, same.trans single.2⟩
  | _ =>
    rcases allowed with rfl | rfl
    · exact .inl same.eq_nil
    · exact .inr (perm_singleton.1 same)

theorem requiredTags_of_linear (linear : node.kind.isLinear = true) :
    requiredTags node = [.plain] := by
  unfold requiredTags
  cases config : node.config <;> simp_all [Node.kind, Config.kind, Kind.isLinear]

theorem outgoingTags_eq (graph : Graph) (node : Node) : outgoingTags graph node =
    ((graph.edgesFrom node.id).map Edge.tag).map (normalizedTag node) := by
  simp [outgoingTags]

theorem no_repeated_of_nodup {tags : List Tag} (distinct : tags.Nodup) :
    ((sortTags tags.eraseDups).filterMap fun tag =>
      if 1 < tags.count tag then some (Problem.repeatedTag id (tags.count tag) tag) else none) =
        [] := by
  refine filterMap_eq_nil_iff.2 fun tag _ => if_neg ?_
  have once := nodup_iff_count.1 distinct tag
  omega

theorem tagProblems_eq_nil_iff :
    tagProblems graph node = [] ↔ node.config ≠ .branch [] ∧
      AllowsTags node.config ((graph.edgesFrom node.id).map Edge.tag) := by
  rw [← allowsTags_iff, ← outgoingTags_eq]
  constructor
  · intro silent
    have tagged := tagged_of_no_problems silent
    refine ⟨tagged.cases, ?_⟩
    have perm (complete : ∀ tag ∈ requiredTags node, tag ∈ outgoingTags graph node) :
        (outgoingTags graph node).Perm (requiredTags node) :=
      (perm_ext_iff_of_nodup tagged.distinct (nodup_requiredTags node)).2
        fun tag => ⟨tagged.expected tag, complete tag⟩
    cases linear : node.kind.isLinear with
    | false => exact .inl (perm (tagged.complete linear))
    | true =>
      cases shape : outgoingTags graph node with
      | nil => exact .inr ⟨rfl, rfl⟩
      | cons tag rest =>
        -- The only required tag is there because the first tag can be no other.
        rw [← shape]
        refine .inl (perm ?_)
        have first := tagged.expected tag (shape ▸ mem_cons_self)
        rw [requiredTags_of_linear linear, mem_singleton] at first
        rw [requiredTags_of_linear linear, forall_mem_singleton, shape, first]
        exact mem_cons_self
  · rintro ⟨some, right⟩
    have distinct : (outgoingTags graph node).Nodup := by
      rcases right with perm | ⟨_, none⟩
      · exact perm.nodup_iff.2 (nodup_requiredTags node)
      · rw [none]
        exact nodup_nil
    have repeated := @no_repeated_of_nodup node.id _ distinct
    unfold tagProblems
    simp only
    split
    · exact repeated
    · next dangling =>
        have perm : (outgoingTags graph node).Perm (requiredTags node) := by
          refine right.resolve_right ?_
          rintro ⟨linear, none⟩
          have tags :
              (graph.edgesFrom node.id).map (fun edge => normalizedTag node edge.tag) = [] :=
            none
          simp [linear, tags] at dangling
        have missing : (requiredTags node).filter (· ∉ outgoingTags graph node) = [] := by
          simpa [filter_eq_nil_iff] using fun tag => perm.mem_iff.2
        have invalid : (graph.edgesFrom node.id).filter
            (fun edge => normalizedTag node edge.tag ∉ requiredTags node) = [] := by
          refine filter_eq_nil_iff.2 fun edge listed => ?_
          simpa using perm.mem_iff.1 (mem_map.2 ⟨edge, listed, rfl⟩)
        rw [outgoingTags] at missing repeated
        rw [repeated, missing, invalid]
        simp [sortTags]

/-! ## The whole check -/

theorem entryProblems_eq_nil_iff :
    entryProblems graph = [] ↔
      ∃ node ∈ graph.nodes, node.id = graph.entryId ∧ node.kind = .start := by
  constructor
  · intro silent
    obtain ⟨node, found, start⟩ := entry_of_no_problems silent
    obtain ⟨listed, same⟩ := Graph.node?_eq_some_iff.1 found
    exact ⟨node, listed, same, start⟩
  · rintro ⟨node, listed, same, start⟩
    simp [entryProblems, Graph.node?_eq_some_iff.2 ⟨listed, same⟩, start]

theorem edgeProblems_eq_nil_iff :
    edgeProblems graph = [] ↔
      ∀ edge ∈ graph.edges, edge.source ∈ graph.nodeIds ∧ edge.target ∈ graph.nodeIds := by
  constructor
  · exact fun silent edge => joined_of_no_problems silent
  · intro joined
    refine flatMap_eq_nil_iff.2 fun edge listed => ?_
    simp [joined edge listed]

/-- In a graph whose entry is a node and whose edges join nodes, no node is missed exactly when
edges lead to all of them. -/
theorem reachProblems_eq_nil_iff (entry : graph.entryId ∈ graph.nodeIds)
    (joined : ∀ edge ∈ graph.edges, edge.target ∈ graph.nodeIds) :
    reachProblems graph = [] ↔ ∀ id ∈ graph.nodeIds, graph.Reaches graph.entryId id := by
  constructor
  · exact fun silent id => reached_of_no_problems silent entry
  · intro reached
    rw [reachProblems, if_pos entry, map_eq_nil_iff, filter_eq_nil_iff]
    intro id listed
    simpa using Graph.mem_reachable_of_reaches entry joined (reached id listed)

end AgentFlow.Workflow
