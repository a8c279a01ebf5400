import AgentFlow.Proofs.Emit.Quiet
import AgentFlow.Proofs.Linear.Follows
import AgentFlow.Proofs.Linear.Ways

/-!
# Quiet routes

A route hands names on from node to node, and its statements are put together from what the nodes
emit.  The names on a path can be bound as long as each node hands on such names, and then what the
nodes emit spares the names that are taken for granted; so do the statements of the whole route.
-/

namespace AgentFlow

open List Workflow Emit

variable {graph : Graph} {path : Path} {emission : Emission}

/-! ## Paths -/

theorem Emit.Path.Named.after (named : path.Named) (quiet : emission.IsQuiet) :
    (path.after emission).Named := by
  refine ⟨fun name handed => ?_, quiet.checkedText⟩
  cases result : emission.result with
  | none => exact named.result name (by simpa [Path.after, result] using handed)
  | some own => exact quiet.result name (by simpa [Path.after, result] using handed)

namespace Linear

variable {call : Call}

theorem named_rejectedPath (named : path.Named) (edge : Option Edge) :
    (rejectedPath graph edge path).Named := by
  unfold rejectedPath
  split
  · exact ⟨nofun, nofun⟩
  · exact named

theorem named_waysOn (named : call.path.Named) (quiet : call.emission.IsQuiet) :
    ∀ way ∈ waysOn graph call, way.path.Named := by
  intro way member
  cases isWay_of_mem member with
  | case | past => exact named
  | body => exact ⟨named.result, named.checked⟩
  | after => exact named.after quiet
  | rejected edge => exact named_rejectedPath named edge

/-! ## Statements -/

theorem Call.assemble_quiet {ways : List Block} (quiet : call.emission.IsQuiet)
    (each : ∀ way ∈ ways, Block.IsQuiet way) : Block.IsQuiet (call.assemble ways) := by
  obtain ⟨first, last⟩ := ends_of_all (forall_mem_nil _) each
  unfold Call.assemble
  refine forall_mem_append.2 ⟨quiet.statements, ?_⟩
  split
  · exact forall_mem_nil _
  · refine forall_mem_singleton.2 (.branch (fun arm listed => ?_) fun body found => ?_)
    · obtain ⟨condition, way⟩ := of_mem_zip listed
      exact ⟨quiet.conditions _ condition, each _ way⟩
    · exact each body (mem_of_getLast? found)
  · refine forall_mem_cons.2 ⟨.loop ?_ first, last⟩
    cases shape : call.emission.conditions with
    | nil => decide
    | cons condition rest => exact quiet.conditions condition (by simp [shape])
  · split
    · exact first
    · next gate given =>
        obtain ⟨condition, fallback⟩ := quiet.gate gate given
        refine forall_mem_singleton.2 (.guard condition first ?_)
        split
        · exact last
        · exact forall_mem_singleton.2 (.ret (isSymbol_orWorkflow fallback).oneLine)

/-- **The statements of a route are quiet if what its calls emit is quiet wherever the names on the
path can be bound.** -/
theorem Follows.quiet {arrival : Option Arrival} {route : Route}
    (follows : Follows graph arrival path route)
    (calls : ∀ call ∈ route.calls, call.path.Named → call.emission.IsQuiet)
    (named : path.Named) : Block.IsQuiet route.block := by
  induction follows with
  | stop path => exact forall_mem_singleton.2 (.ret named.current.oneLine)
  | back => exact forall_mem_nil _
  | visit arrival call ways known away fits onward ih =>
    rw [Route.calls_visit] at calls
    obtain ⟨own, others⟩ := forall_mem_cons.1 calls
    have quiet := own named
    rw [Route.block_visit]
    refine call.assemble_quiet quiet fun block listed => ?_
    obtain ⟨route, among, rfl⟩ := mem_map.1 listed
    obtain ⟨way, walked, _, keeps⟩ := exists_of_mem_right ih among
    exact keeps (fun call called => others call (mem_flatMap.2 ⟨route, among, called⟩))
      (named_waysOn named quiet way walked)

end Linear

end AgentFlow
