import AgentFlow.Proofs.Text
import AgentFlow.Proofs.Workflow.Checked
import Mathlib.Data.List.Perm.Subperm

/-!
# Every node that edges lead to is found

What the breadth-first search has seen is closed under edges except for what the last round found,
and every round but the last sees a new node, so the number of nodes bounds the number of rounds.
-/

namespace AgentFlow.Workflow.Graph

open List

variable {graph : Graph} {id : Text}

theorem nodup_dedup (texts : List Text) : (Text.dedup texts).Nodup := by
  have kept : ∀ (texts kept : List Text), kept.Nodup →
      (texts.foldl (fun kept t => if t ∈ kept then kept else kept ++ [t]) kept).Nodup := by
    intro texts
    induction texts with
    | nil => exact fun kept distinct => distinct
    | cons next rest ih =>
      intro kept distinct
      rw [foldl_cons]
      refine ih _ ?_
      split
      · exact distinct
      · next fresh => exact nodup_append.2 ⟨distinct, nodup_singleton _, by grind⟩
  exact kept texts [] nodup_nil

theorem mem_targets_iff {target : Text} :
    target ∈ graph.targets id ↔ graph.Leads id target ∧ target ∈ graph.nodeIds := by
  constructor
  · intro member
    exact ⟨leads_of_mem_targets member, by simpa using (mem_filter.1 member).2⟩
  · rintro ⟨⟨edge, listed, source, rfl⟩, known⟩
    refine mem_filter.2 ⟨mem_map.2 ⟨edge, ?_, rfl⟩, by simpa using known⟩
    exact mem_edgesFrom_iff.2 ⟨listed, source⟩

theorem mem_discover_iff {seen fresh : List Text} :
    id ∈ graph.discover seen fresh ↔ (∃ source ∈ fresh, id ∈ graph.targets source) ∧ id ∉ seen := by
  have filtered : id ∈ (fresh.flatMap graph.targets).filter (· ∉ seen) ↔
      (∃ source ∈ fresh, id ∈ graph.targets source) ∧ id ∉ seen := by
    simp [mem_filter, mem_flatMap]
  rw [← filtered]
  exact ⟨Text.mem_of_mem_dedup, Text.mem_dedup_of_mem⟩

theorem length_le_nodes {ids : List Text} (distinct : ids.Nodup) (known : ids ⊆ graph.nodeIds) :
    ids.length ≤ graph.nodes.length := by
  have shorter := (List.Nodup.subperm distinct known).length_le
  rwa [nodeIds, length_map] at shorter

/-- What is seen in the end holds what was seen, and with a node all nodes that its edges lead
to. -/
theorem reachFrom_closed :
    ∀ (rounds : Nat) (seen fresh : List Text), seen.Nodup → seen ⊆ graph.nodeIds →
      (∀ id ∈ seen, id ∉ fresh → graph.targets id ⊆ seen) →
        graph.nodes.length < rounds + seen.length →
          seen ⊆ graph.reachFrom rounds seen fresh ∧
            ∀ id ∈ graph.reachFrom rounds seen fresh,
              graph.targets id ⊆ graph.reachFrom rounds seen fresh := by
  intro rounds
  induction rounds with
  | zero =>
    intro seen fresh distinct known closed enough
    have bound := length_le_nodes distinct known
    omega
  | succ rounds ih =>
    intro seen fresh distinct known closed enough
    rw [reachFrom]
    split
    · next none =>
        refine ⟨List.Subset.refl _, fun id member => ?_⟩
        by_cases last : id ∈ fresh
        · intro target next
          by_contra unseen
          have found := mem_discover_iff.2 ⟨⟨id, last, next⟩, unseen⟩
          rw [none] at found
          cases found
        · exact closed id member last
    · next found nonempty =>
        have new : ∀ id ∈ graph.discover seen fresh, id ∈ graph.nodeIds ∧ id ∉ seen := by
          intro id member
          obtain ⟨⟨source, _, target⟩, unseen⟩ := mem_discover_iff.1 member
          exact ⟨(mem_targets_iff.1 target).2, unseen⟩
        have some := length_pos_of_ne_nil nonempty
        have distinct' : (seen ++ graph.discover seen fresh).Nodup := by
          refine nodup_append.2 ⟨distinct, nodup_dedup _, ?_⟩
          rintro id old _ member rfl
          exact (new id member).2 old
        have known' : seen ++ graph.discover seen fresh ⊆ graph.nodeIds :=
          append_subset.2 ⟨known, fun id member => (new id member).1⟩
        have closed' : ∀ id ∈ seen ++ graph.discover seen fresh, id ∉ graph.discover seen fresh →
            graph.targets id ⊆ seen ++ graph.discover seen fresh := by
          intro id member old target next
          have member := (mem_append.1 member).resolve_right old
          by_cases before : target ∈ seen
          · exact mem_append_left _ before
          · have last : id ∈ fresh := by
              by_contra earlier
              exact before (closed id member earlier next)
            exact mem_append_right _ (mem_discover_iff.2 ⟨⟨id, last, next⟩, before⟩)
        have enough' :
            graph.nodes.length < rounds + (seen ++ graph.discover seen fresh).length := by
          rw [length_append]
          omega
        obtain ⟨kept, complete⟩ := ih _ _ distinct' known' closed' enough'
        exact ⟨fun id member => kept (mem_append_left _ member), complete⟩

/-- **Every node that edges lead to is found.** -/
theorem mem_reachable_of_reaches {start : Text} (known : start ∈ graph.nodeIds)
    (joined : ∀ edge ∈ graph.edges, edge.target ∈ graph.nodeIds)
    (reached : graph.Reaches start id) :
    id ∈ graph.reachable start := by
  obtain ⟨kept, closed⟩ := graph.reachFrom_closed graph.nodes.length [start] [start]
    (nodup_singleton _) (fun id member => mem_singleton.1 member ▸ known)
    (fun id member fresh => absurd member fresh) (Nat.lt_succ_self _)
  induction reached with
  | refl => exact kept mem_cons_self
  | tail _ step ih =>
    obtain ⟨edge, listed, source, rfl⟩ := step
    exact closed _ ih (mem_targets_iff.2 ⟨⟨edge, listed, source, rfl⟩, joined edge listed⟩)

/-- An edge that is not the one into a loop body leads from one node to another. -/
def Continues (graph : Graph) (first second : Text) : Prop :=
  ∃ edge ∈ graph.edges, edge.tag ≠ .loopBody ∧ edge.source = first ∧ edge.target = second

theorem mem_onward_iff {target : Text} :
    target ∈ graph.onward id ↔ graph.Continues id target ∧ target ∈ graph.nodeIds := by
  simp only [onward, mem_map, mem_filter, mem_edgesFrom_iff, decide_eq_true_eq, Continues]
  constructor
  · rintro ⟨edge, ⟨⟨listed, source⟩, other, known⟩, rfl⟩
    exact ⟨⟨edge, listed, other, source, rfl⟩, known⟩
  · rintro ⟨⟨edge, listed, other, source, rfl⟩, known⟩
    exact ⟨edge, ⟨⟨listed, source⟩, other, known⟩, rfl⟩

end AgentFlow.Workflow.Graph
