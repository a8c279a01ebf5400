import AgentFlow.Proofs.Linear.Coverage
import Mathlib.Data.List.Lattice
import Mathlib.Data.List.Pairwise

/-!
# Trails

A trail follows edges and remembers the loops that it opens; it goes no further once it is back at
one of them.  Trails say which graphs can be written as nested statements: every node is entered by
one trail, and a trail comes back to the loop that it opened last.  A route explores all trails.
-/

namespace AgentFlow.Linear

open List Workflow Emit

/-- A trail from one node to another, with the loops that are open at its start and at its end. -/
inductive Trail (graph : Graph) : List Text → Text → List Edge → List Text → Text → Prop
  | here (opened : List Text) (id : Text) : Trail graph opened id [] opened id
  | step {opened opened' last} {edge : Edge} {edges}
      (away : edge.source ∉ opened) (listed : edge ∈ graph.edges)
      (rest : Trail graph (openAfter opened edge) edge.target edges opened' last) :
      Trail graph opened edge.source (edge :: edges) opened' last

/-- A node is entered once: one trail from the entry leads to it other than back to an open loop. -/
def EnteredOnce (graph : Graph) (id : Text) : Prop :=
  ∃! edges, ∃ opened, Trail graph [] graph.entryId edges opened id ∧ id ∉ opened

/-- Every trail from the entry that comes back to a node as an open loop has opened it last. -/
def ReturnsInnermost (graph : Graph) (id : Text) : Prop :=
  ∀ edges opened, Trail graph [] graph.entryId edges opened id → id ∈ opened →
    opened.getLast? = some id

variable {graph : Graph} {arrival : Option Arrival} {path : Path} {route : Route} {call : Call}
  {edge : Edge} {edges more : List Edge} {opened opened' opened'' : List Text}
  {first middle last : Text}

namespace Trail

theorem append (begin : Trail graph opened first edges opened' middle)
    (rest : Trail graph opened' middle more opened'' last) :
    Trail graph opened first (edges ++ more) opened'' last := by
  induction begin with
  | here => exact rest
  | step away listed _ ih => exact .step away listed (ih rest)

theorem eq_of_inside (inside : first ∈ opened)
    (trail : Trail graph opened first edges opened' last) :
    edges = [] ∧ opened' = opened ∧ last = first := by
  cases trail with
  | here => exact ⟨rfl, rfl, rfl⟩
  | step away => exact absurd inside away

theorem here_or_step (trail : Trail graph opened first edges opened' last) :
    (edges = [] ∧ last = first) ∨ ∃ edge rest, edges = edge :: rest ∧ edge ∈ graph.edges ∧
      edge.source = first ∧ Trail graph (openAfter opened edge) edge.target rest opened' last := by
  cases trail with
  | here => exact .inl ⟨rfl, rfl⟩
  | step _ listed rest => exact .inr ⟨_, _, rfl, listed, rfl, rest⟩

/-- A trail between nodes of a checked graph that starts at one of them ends at one of them. -/
theorem known (checked : Checked graph) (start : first ∈ graph.nodeIds)
    (trail : Trail graph opened first edges opened' last) : last ∈ graph.nodeIds := by
  induction trail with
  | here => exact start
  | step _ listed _ ih => exact ih (checked.joined _ listed).2

end Trail

/-! ## Ways and steps -/

theorem exists_way (checked : Checked graph) (known : graph.node? call.node.id = some call.node)
    (fits : call.emission.Fits call.node.config) (listed : edge ∈ graph.edges)
    (source : edge.source = call.node.id) : ∃ way ∈ waysOn graph call, way.edge = some edge := by
  have tagged := checked.tagged _ (Graph.node?_eq_some_iff.1 known).1
  have found : edge ∈ (waysOn graph call).filterMap Way.edge :=
    (waysOn_perm tagged fits).mem_iff.2 (Graph.mem_edgesFrom_iff.2 ⟨listed, source⟩)
  exact mem_filterMap.1 found

/-! ## A route explores the trails from its arrival on -/

namespace Follows

/-- A trail from the arrival on comes back to its innermost loop, or the route visits its end. -/
theorem explores (checked : Checked graph) (follows : Follows graph arrival path route)
    (start : arrival.map Arrival.id = some first)
    (trail : Trail graph path.openLoops first edges opened last) :
    (last ∈ opened → opened.getLast? = some last) ∧
      (last ∉ opened → ∃ call ∈ route.calls, call.node.id = last) := by
  induction follows generalizing edges first with
  | stop path => cases start
  | back arrival path innermost =>
    cases start
    obtain ⟨_, rfl, rfl⟩ := trail.eq_of_inside (mem_of_getLast? innermost)
    exact ⟨fun _ => innermost, fun out => absurd (mem_of_getLast? innermost) out⟩
  | visit arrival call ways known away fits _ onward =>
    obtain ⟨_, same⟩ := Graph.node?_eq_some_iff.1 known
    rw [Option.some.inj start] at known away same
    rw [Route.calls_visit]
    cases trail with
    | here => exact ⟨fun inside => absurd inside away, fun _ => ⟨call, mem_cons_self, same⟩⟩
    | @step _ _ _ edge _ _ listed rest =>
      obtain ⟨way, looked, found⟩ := exists_way checked (same ▸ known) fits listed same.symm
      obtain ⟨route, among, _, holds⟩ := exists_of_mem_left onward looked
      obtain ⟨_, _, loops⟩ := openLoops_of_way looked found
      obtain ⟨back, visit⟩ := holds (by rw [found]; rfl) (loops ▸ rest)
      refine ⟨back, fun out => ?_⟩
      obtain ⟨other, called, id⟩ := visit out
      exact ⟨other, mem_cons_of_mem _ (mem_flatMap.2 ⟨route, among, called⟩), id⟩

/-- A trail leads from the arrival to every node that the route visits. -/
theorem trail_of_call (follows : Follows graph arrival path route)
    (start : arrival.map Arrival.id = some first) (called : call ∈ route.calls) :
    ∃ edges opened, Trail graph path.openLoops first edges opened call.node.id ∧
      call.node.id ∉ opened := by
  induction follows generalizing first with
  | stop path => cases called
  | back arrival path => cases called
  | visit arrival own ways known away _ _ onward =>
    obtain ⟨_, same⟩ := Graph.node?_eq_some_iff.1 known
    rw [Option.some.inj start] at away same
    subst same
    rw [Route.calls_visit] at called
    rcases mem_cons.1 called with rfl | later
    · exact ⟨[], _, .here _ _, away⟩
    · obtain ⟨route, listed, inside⟩ := mem_flatMap.1 later
      obtain ⟨way, looked, follows, holds⟩ := exists_of_mem_right onward listed
      cases found : way.edge with
      | none =>
        rw [found] at follows
        cases follows
        cases inside
      | some edge =>
        obtain ⟨edge_listed, source, loops⟩ := openLoops_of_way looked found
        obtain ⟨edges, opened, trail, out⟩ := holds (by rw [found]; rfl) inside
        rw [loops] at trail
        exact ⟨edge :: edges, opened, source ▸ .step (source ▸ away) edge_listed trail, out⟩

variable {node : Node}

theorem mem_entered (follows : Follows graph arrival path route)
    (known : graph.node? last = some node) (inner : node.kind ≠ .finish)
    (visited : ∃ call ∈ route.calls, call.node.id = last) : last ∈ route.entered := by
  obtain ⟨call, called, rfl⟩ := visited
  obtain ⟨found, _⟩ := follows.known_of_call called
  rw [found] at known
  refine mem_map.2 ⟨call, mem_filter.2 ⟨called, ?_⟩, rfl⟩
  simpa [Option.some.inj known] using inner

/-- Where no node but an end is entered twice on a route, at most one trail enters a node. -/
theorem trail_unique (checked : Checked graph) (follows : Follows graph arrival path route)
    (once : route.entered.Nodup) (start : arrival.map Arrival.id = some first)
    (found : graph.node? last = some node) (inner : node.kind ≠ .finish)
    (one : Trail graph path.openLoops first edges opened last) (out : last ∉ opened)
    (two : Trail graph path.openLoops first more opened' last) (out' : last ∉ opened') :
    edges = more := by
  induction follows generalizing first edges more with
  | stop path => cases start
  | back arrival path innermost =>
    rw [Option.some.inj start] at innermost
    have inside := mem_of_getLast? innermost
    exact (one.eq_of_inside inside).1.trans (two.eq_of_inside inside).1.symm
  | visit arrival call ways known away fits _ onward =>
    obtain ⟨_, same⟩ := Graph.node?_eq_some_iff.1 known
    rw [Option.some.inj start] at known same
    subst same
    rw [Route.entered_visit] at once
    obtain ⟨_, later, apart⟩ := nodup_append.1 once
    obtain ⟨each, disjoint⟩ := nodup_flatMap.1 later
    -- A trail that goes on enters its end on the way along its first edge.
    have enters : ∀ {edge edges opened}, edge ∈ graph.edges → edge.source = call.node.id →
        Trail graph (openAfter call.path.openLoops edge) edge.target edges opened last →
        last ∉ opened → ∃ way route, (way, route) ∈ (waysOn graph call).zip ways ∧
          way.edge = some edge ∧ last ∈ route.entered := by
      intro edge edges opened listed source rest out
      obtain ⟨way, looked, along⟩ := exists_way checked known fits listed source
      rw [← map_fst_zip onward.length_eq.le] at looked
      obtain ⟨⟨way, route⟩, paired, rfl⟩ := mem_map.1 looked
      obtain ⟨follows, _⟩ := forall₂_zip onward paired
      obtain ⟨_, _, loops⟩ := openLoops_of_way (of_mem_zip paired).1 along
      have visited := (follows.explores checked (by rw [along]; rfl) (loops ▸ rest)).2 out
      exact ⟨way, route, paired, along, follows.mem_entered found inner visited⟩
    -- So it does not end where it starts.
    have leaves : ∀ {edge edges opened}, edge ∈ graph.edges → edge.source = call.node.id →
        Trail graph (openAfter call.path.openLoops edge) edge.target edges opened last →
        last ∉ opened → last ≠ call.node.id := by
      intro edge edges opened listed source rest out same
      obtain ⟨_, route, paired, _, entered⟩ := enters listed source rest out
      rw [same, known] at found
      have own : last ∈ recorded call.node [] := by
        simp [recorded, Option.some.inj found, inner, same]
      exact apart last own last (mem_flatMap.2 ⟨route, (of_mem_zip paired).2, entered⟩) rfl
    rcases one.here_or_step with ⟨rfl, here⟩ | ⟨edge, rest, rfl, listed, source, trail⟩
    · rcases two.here_or_step with ⟨rfl, _⟩ | ⟨edge', rest', rfl, listed', source', trail'⟩
      · rfl
      · exact absurd here (leaves listed' source' trail' out')
    · rcases two.here_or_step with ⟨rfl, here⟩ | ⟨edge', rest', rfl, listed', source', trail'⟩
      · exact absurd here (leaves listed source trail out)
      · obtain ⟨way, route, paired, along, entered⟩ := enters listed source trail out
        obtain ⟨way', route', paired', along', entered'⟩ := enters listed' source' trail' out'
        -- Nor do two ways enter one node.
        have same : (way, route) = (way', route') := by
          by_contra differs
          rw [← map_snd_zip onward.length_eq.ge] at disjoint
          have symmetric : Std.Symm fun one two : Way × Route =>
              one.2.entered.Disjoint two.2.entered := ⟨fun _ _ => List.Disjoint.symm⟩
          exact (pairwise_map.1 disjoint).forall paired paired' differs entered entered'
        cases same
        obtain rfl : edge = edge' := Option.some.inj (along.symm.trans along')
        obtain ⟨_, holds⟩ := forall₂_zip onward paired
        obtain ⟨_, _, loops⟩ := openLoops_of_way (of_mem_zip paired).1 along
        exact congrArg (edge :: ·) (holds (each route (of_mem_zip paired).2)
          (by rw [along]; rfl) (loops ▸ trail) (loops ▸ trail'))

end Follows

end AgentFlow.Linear
