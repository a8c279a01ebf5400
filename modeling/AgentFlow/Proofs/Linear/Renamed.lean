import AgentFlow.Proofs.Emit.Renamed
import AgentFlow.Proofs.Linear.Follows
import AgentFlow.Proofs.Workflow.Renamed

/-!
# Walking a graph under other ids

The walk through a graph looks nodes and edges up by ids, and compares ids with those it has entered
and with those of the open loops.  Under other ids all this comes out as before, so the walk goes
the same ways, and its emitter is called for the same nodes in the same order.
-/

namespace AgentFlow

open List

namespace Emit

/-- A path and what it becomes under other ids. -/
structure Path.Alike (rename : Text → Text) (path other : Path) : Prop where
  lastResult : path.lastResult = other.lastResult
  guardrailText : path.guardrailText = other.guardrailText
  openLoops : other.openLoops = path.openLoops.map rename

namespace Path.Alike

variable {rename : Text → Text} {path other : Path} (alike : path.Alike rename other)
include alike

theorem current : path.current = other.current := by
  unfold Path.current
  rw [alike.lastResult]

theorem names : path.names = other.names := by
  unfold Path.names
  rw [alike.current, alike.guardrailText]

theorem after {emission emission' : Emission} (same : emission.Alike rename emission') :
    (path.after emission).Alike rename (other.after emission') where
  lastResult := by simp [Path.after, alike.lastResult, same.result]
  guardrailText := same.checkedText
  openLoops := alike.openLoops

theorem entering (id : Text) : (path.entering id).Alike rename (other.entering (rename id)) where
  lastResult := alike.lastResult
  guardrailText := alike.guardrailText
  openLoops := by simp [Path.entering, alike.openLoops]

end Path.Alike

end Emit

namespace Linear

open Workflow Emit Stoppable

variable {σ σ' : Type} {graph other : Graph} {rename : Equiv.Perm Text}

def Arrival.renamed (rename : Text → Text) : Arrival → Arrival
  | start id => .start (rename id)
  | via edge => .via (edge.renamed rename)

theorem Arrival.id_renamed (rename : Text → Text) (arrival : Arrival) :
    (arrival.renamed rename).id = rename arrival.id := by
  cases arrival <;> rfl

/-- A call and the one that is made under other ids. -/
structure Call.Alike (rename : Text → Text) (call call' : Call) : Prop where
  id : call'.node.id = rename call.node.id
  config : call'.node.config = call.node.config
  path : call.path.Alike rename call'.path
  emission : call.emission.Alike rename call'.emission

/-- A way and what it becomes under other ids. -/
structure Way.Alike (rename : Text → Text) (way way' : Way) : Prop where
  edge : way'.edge = way.edge.map (Edge.renamed rename)
  path : way.path.Alike rename way'.path

/-! ## Ways -/

section Ways

variable (renames : Renames rename graph.workflow other.workflow) (checked : Checked graph)
  (checked' : Checked other) {call call' : Call}

include renames in
theorem leadsToEnd_renamed (edge : Edge) :
    leadsToEnd other (edge.renamed rename) = leadsToEnd graph edge := by
  have same := congrArg (Option.any fun config : Config => config.kind = .finish)
    (node?_renamed renames edge.target)
  rw [Option.any_map, Option.any_map] at same
  exact same

include renames in
theorem rejectedPath_renamed (edge : Option Edge) {path path' : Path}
    (alike : path.Alike rename path') :
    (rejectedPath graph edge path).Alike rename
      (rejectedPath other (edge.map (Edge.renamed rename)) path') := by
  have same : (edge.map (Edge.renamed rename)).any (leadsToEnd other) =
      edge.any (leadsToEnd graph) := by
    rw [Option.any_map]
    exact congrArg (edge.any ·) (funext (leadsToEnd_renamed renames))
  unfold rejectedPath
  rw [same]
  split
  · exact ⟨rfl, rfl, alike.openLoops⟩
  · exact alike

include renames checked checked'

theorem caseEdge?_renamed (id : Text) (cases index : Nat) :
    caseEdge? other (rename id) cases index =
      (caseEdge? graph id cases index).map (Edge.renamed rename) := by
  unfold caseEdge?
  rw [edge?_renamed renames checked checked', edge?_renamed renames checked checked']
  cases graph.edge? id (.case index) with
  | some edge => rfl
  | none =>
    simp only [Option.map_none]
    split <;> rfl

/-- **The ways on from a node are the same under other ids.** -/
theorem waysOn_renamed (alike : call.Alike rename call') :
    List.Forall₂ (Way.Alike rename) (waysOn graph call) (waysOn other call') := by
  have looked := edge?_renamed renames checked checked' call.node.id
  have onward : ∀ tag, Way.Alike rename
      ⟨graph.edge? call.node.id tag, call.path.after call.emission⟩
      ⟨other.edge? (rename call.node.id) tag, call'.path.after call'.emission⟩ := fun tag =>
    ⟨looked tag, alike.path.after alike.emission⟩
  unfold waysOn
  rw [alike.config, alike.id]
  cases config : call.node.config with
  | finish ending => exact .nil
  | branch cases =>
    simp only [← alike.emission.conditions]
    refine rel_append ?_ (.cons ⟨looked .no, alike.path⟩ .nil)
    rw [forall₂_map_left_iff, forall₂_map_right_iff]
    exact forall₂_same.2 fun index _ =>
      ⟨caseEdge?_renamed renames checked checked' _ _ _, alike.path⟩
  | loop condition =>
    exact .cons ⟨looked .loopBody, alike.path.entering _⟩
      (.cons ⟨looked .loopExit, alike.path⟩ .nil)
  | approval message =>
    simp only [← alike.emission.gate]
    cases call.emission.gate with
    | none => exact .cons (onward .plain) .nil
    | some gate =>
      refine .cons (onward .approve) (.cons ⟨looked .reject, ?_⟩ .nil)
      rw [looked .reject]
      exact rejectedPath_renamed renames _ alike.path
  | _ => exact .cons (onward .plain) .nil

end Ways

/-! ## Walks -/

/-- The progress of a walk, and that of the walk under other ids. -/
structure Progress.Alike (rename : Text → Text) (alike : σ → σ' → Prop) (progress : Progress σ)
    (progress' : Progress σ') : Prop where
  entered : progress'.entered = progress.entered.map rename
  inner : alike progress.inner progress'.inner

/-- A route and one with the same statements. -/
def SameBlock (route route' : Route) : Prop := route.block = route'.block

theorem Call.Alike.assemble {call call' : Call} (alike : call.Alike rename call')
    (ways : List Block) : call.assemble ways = call'.assemble ways := by
  unfold Call.assemble
  rw [alike.config, alike.emission.statements, alike.emission.conditions, alike.emission.gate]

theorem blocks_eq_of_forall₂ {routes routes' : List Route}
    (pairs : List.Forall₂ SameBlock routes routes') :
    Route.blocks routes = Route.blocks routes' := by
  induction pairs with
  | nil => rfl
  | cons pair _ ih => rw [Route.blocks, Route.blocks, pair, ih]

section Walks

variable {alike : σ → σ' → Prop} {emit : Emitter σ} {emit' : Emitter σ'}
  (renames : Renames rename graph.workflow other.workflow)

include renames in
theorem visit_alongside {path path' : Path} (same : path.Alike rename path')
    (emits : ∀ node node' : Node, node'.id = rename node.id → node'.config = node.config →
      Alongside alike (Emission.Alike rename) (emit node path) (emit' node' path'))
    (arrival : Arrival) :
    Alongside (Progress.Alike rename alike) (Call.Alike rename) (visit graph emit arrival path)
      (visit other emit' (arrival.renamed rename) path') := by
  intro progress progress' begun call last done
  obtain ⟨known, rfl, fresh, emitted, entered⟩ := visit_eq_ok done
  have found := node?_renamed renames arrival.id
  rw [known] at found
  obtain ⟨node', known', config⟩ := Option.map_eq_some_iff.1 found
  have id : node'.id = rename call.node.id := by
    rw [(Graph.node?_eq_some_iff.1 known).2, (Graph.node?_eq_some_iff.1 known').2]
  obtain ⟨emission', inner', emitted', related, ends⟩ :=
    emits call.node node' id config begun.inner emitted
  refine ⟨⟨node', path', emission'⟩, ⟨recorded node' progress'.entered, inner'⟩, ?_,
    ⟨id, config, same, related⟩, ?_, ends⟩
  · have absent : ¬ (node'.kind ≠ .finish ∧ node'.id ∈ progress'.entered) := by
      rw [id, begun.entered, mem_map_of_injective rename.injective, kind_congr config]
      exact fun both => fresh both.1 both.2
    rw [visit_run, Arrival.id_renamed, known']
    simp only [if_neg absent, emitted']
    rfl
  · rw [entered]
    unfold recorded
    rw [kind_congr config, begun.entered, id]
    split <;> simp

variable (checked : Checked graph) (checked' : Checked other)
  (emits : ∀ (node node' : Node) (path path' : Path), node'.id = rename node.id →
    node'.config = node.config → path.Alike rename path' →
      Alongside alike (Emission.Alike rename) (emit node path) (emit' node' path'))

include renames checked checked' emits

/-- **A walk goes the same ways under other ids.** -/
theorem walk_alongside : ∀ (fuel : Nat) (arrival : Option Arrival) (path path' : Path),
    path.Alike rename path' →
      Alongside (Progress.Alike rename alike) SameBlock (walk graph emit fuel arrival path)
        (walk other emit' fuel (arrival.map (Arrival.renamed rename)) path')
  | fuel, none, path, path', same => by
    have stops : SameBlock (.stop path) (.stop path') := by
      unfold SameBlock Route.block
      rw [same.current]
    cases fuel <;> exact .pure stops
  | 0, some arrival, path, path', _ => .throw _
  | fuel + 1, some arrival, path, path', same => by
    have inside' : (arrival.renamed rename).id ∈ path'.openLoops ↔ arrival.id ∈ path.openLoops := by
      rw [Arrival.id_renamed, same.openLoops]
      exact mem_map_of_injective rename.injective
    by_cases inside : arrival.id ∈ path.openLoops
    · rw [walk, if_pos inside, Option.map_some, walk, if_pos (inside'.2 inside)]
      have innermost : path'.openLoops.getLast? = some (arrival.renamed rename).id ↔
          path.openLoops.getLast? = some arrival.id := by
        rw [same.openLoops, getLast?_map, Arrival.id_renamed]
        cases path.openLoops.getLast? <;> simp
      simp only [innermost]
      split
      · exact .pure rfl
      · exact .throw _
    · rw [Option.map_some, walk_visit_run inside, walk_visit_run (inside'.not.2 inside)]
      refine (visit_alongside renames same (fun node node' id config =>
        emits node node' path path' id config same) arrival).bind fun call call' called => ?_
      have onward : ∀ way way', Way.Alike rename way way' → Alongside (Progress.Alike rename alike)
          SameBlock (walk graph emit fuel (way.edge.map .via) way.path)
          (walk other emit' fuel (way'.edge.map .via) way'.path) := by
        intro way way' pair
        have follows := walk_alongside fuel (way.edge.map .via) way.path way'.path pair.path
        rw [pair.edge]
        rwa [Option.map_map, show Arrival.renamed rename ∘ Arrival.via =
          Arrival.via ∘ Edge.renamed rename from rfl, ← Option.map_map] at follows
      refine (Alongside.mapM onward (waysOn_renamed renames checked checked' called)).bind
        fun ways ways' pairs => .pure ?_
      show Call.assemble _ (Route.blocks ways) = Call.assemble _ (Route.blocks ways')
      rw [blocks_eq_of_forall₂ pairs]
      exact called.assemble _

theorem linearize_alongside :
    Alongside alike Eq (linearize graph emit) (linearize other emit') := by
  have surveyed : Alongside alike SameBlock (survey graph emit) (survey other emit') := by
    intro state state' same route last done
    have size : other.nodes.length = graph.nodes.length := by
      simpa [Graph.nodes] using renames.nodes.length_eq
    have entry : other.entryId = rename graph.entryId := renames.entry
    have walked := walk_alongside renames checked checked' emits (graph.nodes.length + 1)
      (some (.start graph.entryId)) {} {} ⟨rfl, rfl, rfl⟩
    obtain ⟨progress, run, rfl⟩ := exists_walk_of_survey done
    have begun : Progress.Alike rename alike { inner := state } { inner := state' } := ⟨rfl, same⟩
    obtain ⟨route', progress', run', blocks, same'⟩ := walked begun run
    refine ⟨route', progress'.inner, ?_, blocks, same'.inner⟩
    rw [survey, size, entry]
    have arrival : (some (Arrival.start graph.entryId)).map (Arrival.renamed rename) =
        some (.start (rename graph.entryId)) := rfl
    rw [← arrival, run']
  exact surveyed.bind fun _ _ blocks => .pure blocks

end Walks

end Linear

end AgentFlow
