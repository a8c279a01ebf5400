import AgentFlow.Proofs.Run.Simulation

/-!
# The generated statements refine the graph

Whatever the conditions give, the statements that are generated for a graph execute what its nodes
have emitted, in the order in which a run of the graph comes to them, and end where it ends.
-/

namespace AgentFlow.Run

open List Workflow Emit Linear

variable {graph : Graph} {route : Route} {arrival : Option Arrival} {path : Path} {call : Call}

/-! ## Visits can be told apart -/

theorem eq_of_nodup_filterMap {α β : Type} {pick : α → Option β} :
    ∀ {items : List α}, (items.filterMap pick).Nodup → ∀ {first second : α} {value : β},
      first ∈ items → second ∈ items → pick first = some value → pick second = some value →
        first = second
  | [], _, _, _, _, member, _, _, _ => by cases member
  | head :: tail, distinct, first, second, value, member, member', picked, picked' => by
    rw [filterMap_cons] at distinct
    have apart : ∀ other ∈ tail, pick head = some value → pick other ≠ some value := by
      intro other listed here there
      rw [here] at distinct
      exact (nodup_cons.1 distinct).1 (mem_filterMap.2 ⟨other, listed, there⟩)
    have rest : (tail.filterMap pick).Nodup := by
      split at distinct
      · exact distinct
      · exact (nodup_cons.1 distinct).2
    rcases mem_cons.1 member with rfl | inside
    · rcases mem_cons.1 member' with rfl | inside'
      · rfl
      · exact absurd picked' (apart second inside' picked)
    · rcases mem_cons.1 member' with rfl | inside'
      · exact absurd picked (apart first inside picked')
      · exact eq_of_nodup_filterMap rest inside inside' picked picked'

theorem visits_sublist (route : Route) :
    (route.visits.filterMap fun visit => visit.1.edge?).Sublist route.followed := by
  induction route using Route.induction with
  | stop path => exact List.Sublist.refl _
  | back arrival => exact nil_sublist _
  | visit arrival call ways ih =>
    rw [Route.visits_visit, Route.followed_visit, ← singleton_append, filterMap_append]
    refine List.Sublist.append ?_ ?_
    · cases edge : arrival.edge? <;> simp [edge]
    · induction ways with
      | nil => exact List.Sublist.refl _
      | cons way rest more =>
        rw [flatMap_cons, flatMap_cons, filterMap_append]
        exact (ih way mem_cons_self).append
          (more fun other listed => ih other (mem_cons_of_mem _ listed))

theorem arrival_of_visit (follows : Follows graph arrival path route) {other : Arrival}
    (member : (other, call) ∈ route.visits) :
    graph.node? other.id = some call.node ∧ (arrival = some other ∨ ∃ edge, other = .via edge) := by
  induction follows with
  | stop path => cases member
  | back arrival path => cases member
  | visit arrival own ways known _ _ _ onward =>
    rw [Route.visits_visit] at member
    rcases mem_cons.1 member with here | later
    · cases here
      exact ⟨known, .inl rfl⟩
    · obtain ⟨route, listed, inside⟩ := mem_flatMap.1 later
      obtain ⟨way, _, _, holds⟩ := exists_of_mem_right onward listed
      obtain ⟨found, arrives⟩ := holds inside
      refine ⟨found, .inr ?_⟩
      rcases arrives with first | via
      · obtain ⟨edge, _, same⟩ := Option.map_eq_some_iff.1 first
        exact ⟨edge, same.symm⟩
      · exact via

theorem distinct_visits (checked : Checked graph)
    (follows : Follows graph (some (.start graph.entryId)) {} route)
    (once : route.entered.Nodup) : Distinct route := by
  rintro ⟨arrival, call⟩ first ⟨arrival', call'⟩ second same ends
  have called : call ∈ route.calls := mem_map_of_mem first
  have called' : call' ∈ route.calls := mem_map_of_mem second
  have node : call.node = call'.node := by
    have known := (follows.known_of_call called).1
    rw [same, (follows.known_of_call called').1] at known
    exact (Option.some.inj known).symm
  by_cases finish : call.node.kind = .finish
  · have edges : route.followed.Nodup :=
      (followed_perm_edges checked follows once).nodup_iff.2 (nodup_edges checked)
    have alike := ends finish (node ▸ finish)
    obtain ⟨known, start | ⟨edge, rfl⟩⟩ := arrival_of_visit follows first
    · obtain ⟨entry, found, kind⟩ := checked.entry
      cases start
      rw [Arrival.id, found] at known
      rw [← Option.some.inj known, kind] at finish
      cases finish
    · have arrives : Arrival.edge? (.via edge) = some edge := rfl
      have equal := eq_of_nodup_filterMap ((visits_sublist route).nodup edges) first second arrives
        (alike.symm.trans arrives)
      exact congrArg Prod.snd equal
  · refine inj_on_of_nodup_map once ?_ ?_ same
    · exact mem_filter.2 ⟨called, by simpa using finish⟩
    · exact mem_filter.2 ⟨called', by simpa [← node] using finish⟩

/-! ## Refinement -/

/-- **The statements of a graph run as the graph does.**  Where the walk through a graph that passes
the check returns statements, and whatever the conditions of a run give, executing the statements
shows what a run through the graph shows: what was emitted for the nodes that it comes to, and the
conditions that decide where it goes on.  Both end after the same events with the same value, and
the statements never run out before they return. -/
theorem body_refines_graph {context : Context} {draft last : Draft} {block : Block}
    (valid : validate context.graph = .ok ())
    (walked : body context draft = (.ok block, last)) :
    ∃ route, survey context.graph (notingEmitter context) draft = (.ok route, last) ∧
      route.block = block ∧
      attempts context.graph (notingEmitter context) draft = route.calls.map Call.attempt ∧
      ∀ oracle, Alike (walking context.graph route) (.start context.graph.entryId) tree block
        oracle := by
  have checked := checked_of_validate valid
  obtain ⟨route, surveyed, same⟩ := linearize_eq_ok.1 walked
  obtain ⟨follows, once, -⟩ := survey_leaves (notingEmitter_fits context) surveyed
  refine ⟨route, surveyed, same, attempts_eq_calls surveyed, fun oracle => ?_⟩
  have keeps : Keeps (walking context.graph route) tree (Related context.graph route) := by
    rintro arrival _ ⟨path, part, rest, follows', inside, around, rfl⟩ oracle
    exact related_meet checked (distinct_visits checked follows once) part arrival path rest oracle
      follows' inside around
  refine keeps.alike ⟨{}, route, [], follows, fun _ => id, .outside, ?_⟩ oracle
  rw [same, append_nil]

/-- The polling loop runs as its graph does. -/
theorem polling_refined :
    validate pollingContext.graph = .ok () ∧ ∃ block last route,
      body pollingContext {} = (.ok block, last) ∧ route.block = block ∧
        ∀ oracle, Alike (walking pollingContext.graph route) (.start pollingContext.graph.entryId)
          tree block oracle := by
  obtain ⟨block, last, walked⟩ := polling_walked
  obtain ⟨route, _, same, _, alike⟩ := body_refines_graph polling_valid walked
  exact ⟨polling_valid, block, last, route, walked, same, alike⟩

end AgentFlow.Run
