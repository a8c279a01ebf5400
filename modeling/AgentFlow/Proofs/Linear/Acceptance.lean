import AgentFlow.Proofs.Linear.Trail

/-!
# Which graphs the walk accepts

Where every attempt to emit a node succeeds, the walk returns exactly if every node but an end is
entered by one trail and every trail that comes back to an open loop comes back to the one opened
last.  The invariant: every node entered so far ends a trail that does not continue the trail to the
node at hand.
-/

namespace AgentFlow.Linear

open List Workflow Emit Stoppable

/-- An error names a node that two trails enter, or none, or that a trail comes back to although it
is not the loop opened last. -/
def Blames (graph : Graph) (found : Error) : Prop :=
  ∃ problem, ∃ node ∈ graph.nodes, found = .malformed [problem] (some node.id) ∧
    (node.kind ≠ .finish ∧ ¬ EnteredOnce graph node.id ∨ ¬ ReturnsInnermost graph node.id)

/-- The nodes entered so far are different, end trails that do not go on from the given one, and
leave fuel for the others. -/
structure Spread (graph : Graph) (edges : List Edge) (fuel : Nat) (entered : List Text) : Prop where
  distinct : entered.Nodup
  enough : graph.nodes.length < fuel + entered.length
  elsewhere : ∀ id ∈ entered, ∃ other opened,
    Trail graph [] graph.entryId other opened id ∧ id ∉ opened ∧ ¬ edges <+: other

variable {σ : Type} {graph : Graph} {emit : Emitter σ} {fuel : Nat} {arrival : Arrival}
  {path : Path} {progress last : Progress σ} {found : Error} {edges : List Edge} {edge : Edge}
  {call : Call} {entered : List Text} {node : Node}

theorem entry_known (checked : Checked graph) : graph.entryId ∈ graph.nodeIds := by
  obtain ⟨start, found, _⟩ := checked.entry
  exact Graph.mem_nodeIds_iff.2 ⟨start, found⟩

/-! ## The invariant -/

namespace Spread

theorem fuel_ne_zero (checked : Checked graph) (spread : Spread graph edges fuel entered) :
    fuel ≠ 0 := by
  have known : entered ⊆ graph.nodeIds := by
    intro id member
    obtain ⟨_, _, trail, _⟩ := spread.elsewhere id member
    exact trail.known checked (entry_known checked)
  have most : entered.length ≤ graph.nodes.length := by
    simpa [Graph.nodeIds] using (subperm_of_subset spread.distinct known).length_le
  have := spread.enough
  omega

theorem record (spread : Spread graph edges (fuel + 1) entered)
    (trail : Trail graph [] graph.entryId edges path.openLoops node.id)
    (away : node.id ∉ path.openLoops) (inner : node.kind ≠ .finish) (fresh : node.id ∉ entered)
    (edge : Edge) : Spread graph (edges ++ [edge]) fuel (recorded node entered) := by
  refine ⟨nodup_recorded (fun _ => fresh) spread.distinct, ?_, fun id member => ?_⟩
  · have := spread.enough
    simp only [recorded, inner, if_false, length_append, length_singleton]
    omega
  · simp only [recorded, inner, if_false, mem_append, mem_singleton] at member
    rcases member with before | rfl
    · obtain ⟨other, opened, leads, out, apart⟩ := spread.elsewhere id before
      exact ⟨other, opened, leads, out, fun goes => apart ((prefix_append _ _).trans goes)⟩
    · refine ⟨edges, path.openLoops, trail, away, fun goes => ?_⟩
      have shorter := goes.length_le
      rw [length_append, length_singleton] at shorter
      omega

/-- What was entered on the way along one exit ends trails that do not go along another. -/
theorem other_way {route : Route} {way : Way}
    (spread : Spread graph (edges ++ [edge]) fuel entered)
    (trail : Trail graph [] graph.entryId edges call.path.openLoops call.node.id)
    (away : call.node.id ∉ call.path.openLoops) (member : way ∈ waysOn graph call)
    (follows : Follows graph (way.edge.map .via) way.path route)
    (differs : way.edge ≠ some edge) (distinct : (entered ++ route.entered).Nodup) :
    Spread graph (edges ++ [edge]) fuel (entered ++ route.entered) := by
  refine ⟨distinct, ?_, fun id listed => ?_⟩
  · have := spread.enough
    rw [length_append]
    omega
  · rcases mem_append.1 listed with before | new
    · exact spread.elsewhere id before
    · obtain ⟨visit, called, rfl⟩ := mem_map.1 new
      have called := mem_of_mem_filter called
      cases along : way.edge with
      | none =>
        rw [along] at follows
        cases follows
        cases called
      | some taken =>
        obtain ⟨edge_listed, source, loops⟩ := openLoops_of_way member along
        obtain ⟨rest, opened, leads, out⟩ :=
          follows.trail_of_call (by rw [along]; rfl) called
        rw [loops] at leads
        have onward : Trail graph call.path.openLoops call.node.id (taken :: rest) opened
            visit.node.id := source ▸ .step (source ▸ away) edge_listed leads
        refine ⟨edges ++ taken :: rest, opened, trail.append onward, out, fun goes => ?_⟩
        have same : edge = taken := by
          simpa using (prefix_append_right_inj edges).1 goes
        exact differs (by rw [along, same])

end Spread

/-! ## Walks that stop -/

/-- An error comes from the emitter, which has left the given state. -/
def FromEmitter (emit : Emitter σ) (found : Error) (inner : σ) : Prop :=
  ∃ node path before, emit node path before = (.error found, inner)

/-- Why a walk along ways stops, given why the walk along each of them does. -/
theorem walkAll_blames (call : Call) (fits : emit.Fits)
    (each : ∀ (arrival : Arrival) path (progress last : Progress σ) edges,
      walk graph emit fuel (some arrival) path progress = (.error found, last) →
      Trail graph [] graph.entryId edges path.openLoops arrival.id →
      Spread graph edges fuel progress.entered →
        Blames graph found ∨ FromEmitter emit found last.inner)
    (trail : Trail graph [] graph.entryId edges call.path.openLoops call.node.id)
    (away : call.node.id ∉ call.path.openLoops) :
    ∀ (ways : List Way) (progress last : Progress σ),
      walkAll graph emit fuel ways progress = (.error found, last) →
      (∀ way ∈ ways, way ∈ waysOn graph call) → (ways.filterMap Way.edge).Nodup →
      (∀ edge ∈ ways.filterMap Way.edge, Spread graph (edges ++ [edge]) fuel progress.entered) →
        Blames graph found ∨ FromEmitter emit found last.inner
  | [], progress, last, stopped, _, _, _ => by cases stopped
  | way :: rest, progress, last, stopped, members, distinct, spread => by
    have member := members way mem_cons_self
    rcases mapM_cons_eq_error.1 stopped with here | ⟨route, middle, walked, later⟩
    · cases along : way.edge with
      | none =>
        rw [along, Option.map_none, walk_nowhere] at here
        cases here
      | some edge =>
        obtain ⟨listed, source, loops⟩ := openLoops_of_way member along
        rw [along] at here
        have step : Trail graph call.path.openLoops call.node.id [edge] way.path.openLoops
            edge.target := by
          rw [loops, ← source]
          exact .step (source ▸ away) listed (.here _ _)
        exact each (.via edge) way.path progress last _ here (trail.append step)
          (spread edge (by simp [along]))
    · obtain ⟨follows, leaves⟩ := walk_leaves fits _ _ _ _ _ _ walked
      have apart : ∀ edge ∈ rest.filterMap Way.edge, way.edge ≠ some edge := by
        intro edge listed same
        rw [filterMap_cons, same] at distinct
        exact (nodup_cons.1 distinct).1 listed
      have more : ∀ edge ∈ rest.filterMap Way.edge,
          Spread graph (edges ++ [edge]) fuel middle.entered := by
        intro edge listed
        have before : Spread graph (edges ++ [edge]) fuel progress.entered :=
          spread edge (by rw [filterMap_cons]; split <;> simp [listed])
        have distinct := leaves.distinct before.distinct
        rw [leaves.entered] at distinct ⊢
        exact before.other_way trail away member follows (apart edge listed) distinct
      refine walkAll_blames call fits each trail away rest middle last later
        (fun other listed => members other (mem_cons_of_mem _ listed)) ?_ more
      rw [filterMap_cons] at distinct
      split at distinct
      · exact distinct
      · exact (nodup_cons.1 distinct).2

/-- **A walk that stops blames a node, or its emitter has failed.** -/
theorem walk_blames (checked : Checked graph) (fits : emit.Fits) (found : Error) :
    ∀ (fuel : Nat) (arrival : Arrival) (path : Path) (progress last : Progress σ)
      (edges : List Edge),
      walk graph emit fuel (some arrival) path progress = (.error found, last) →
      Trail graph [] graph.entryId edges path.openLoops arrival.id →
      Spread graph edges fuel progress.entered →
        Blames graph found ∨ FromEmitter emit found last.inner
  | 0, _, _, _, _, _, _, _, spread => absurd rfl (spread.fuel_ne_zero checked)
  | fuel + 1, arrival, path, progress, last, edges, stopped, trail, spread => by
    have known := trail.known checked (entry_known checked)
    cases arrived_of_walk stopped with
    | reentered inside outer =>
      obtain ⟨node, listed, same⟩ := mem_map.1 known
      refine .inl ⟨_, node, listed, by rw [same]; rfl, .inr fun returns => ?_⟩
      exact outer (same ▸ returns edges path.openLoops (same ▸ trail) (same ▸ inside))
    | stopped away visited =>
      obtain ⟨node, looked⟩ := Graph.mem_nodeIds_iff.1 known
      obtain ⟨listed, same⟩ := Graph.node?_eq_some_iff.1 looked
      rw [visit_run, looked] at visited
      dsimp only at visited
      split at visited
      · next twice =>
          cases visited
          refine .inl ⟨_, node, listed, rfl, .inl ⟨twice.1, fun once => ?_⟩⟩
          obtain ⟨edges', opened, leads, out, apart⟩ := spread.elsewhere _ twice.2
          rw [← same] at trail away
          have equal : edges = edges' := once.unique ⟨_, trail, away⟩ ⟨_, leads, out⟩
          exact apart (equal ▸ prefix_refl _)
      · rcases failed : emit node path progress.inner with ⟨_ | _, inner⟩ <;>
          rw [failed] at visited <;> cases visited
        exact .inr ⟨_, _, _, failed⟩
    | @onward _ call _ _ away visited walked =>
      obtain ⟨looked, rfl, fresh, emitted, entered⟩ := visit_eq_ok visited
      obtain ⟨listed, same⟩ := Graph.node?_eq_some_iff.1 looked
      rw [← same] at trail away
      have inner : call.node.kind ≠ .finish := by
        intro finish
        have none : waysOn graph call = [] :=
          eq_nil_iff_forall_not_mem.2 fun way member => not_finish_of_way member finish
        rw [none] at walked
        cases walked
      refine walkAll_blames call fits (walk_blames checked fits found fuel) trail away _ _ _ walked
        (fun _ => id) ?_ ?_
      · exact (waysOn_perm (checked.tagged _ listed) (fits _ _ emitted)).nodup_iff.2
          ((nodup_edges checked).filter _)
      · exact fun edge _ => entered ▸ spread.record trail away inner (fresh inner) edge

/-! ## Graphs that are accepted -/

theorem logged_fits (fits : emit.Fits) : emit.logged.Fits := by
  intro node path state last emission done
  obtain ⟨result, _⟩ := Prod.mk.inj done
  exact fits node path (Prod.ext result rfl)

/-- Where every attempt to emit a node succeeds, a walk that stops blames a node. -/
theorem survey_blames (checked : Checked graph) (fits : emit.Fits) {state last : σ}
    (emits : ∀ attempt ∈ attempts graph emit state, attempt.result.isOk)
    (stopped : survey graph emit state = (.error found, last)) : Blames graph found := by
  have logged := survey_logged graph emit state
  rw [stopped] at logged
  obtain ⟨progress, walked, inner⟩ := exists_walk_of_survey (Prod.ext logged rfl)
  have spread : Spread graph [] (graph.nodes.length + 1) [] :=
    ⟨nodup_nil, by simp, fun _ member => absurd member not_mem_nil⟩
  rcases walk_blames checked (logged_fits fits) found _ _ _ _ _ _ walked (.here _ _) spread with
    blamed | ⟨node, path, before, failed⟩
  · exact blamed
  · obtain ⟨result, left⟩ := Prod.mk.inj failed
    have kept : attempts graph emit state = before.2 ++ [⟨node, path, _⟩] :=
      (congrArg Prod.snd (left.trans inner)).symm
    rw [kept] at emits
    have attempted := emits _ (mem_append_right _ mem_cons_self)
    rw [result] at attempted
    cases attempted

/-- **The walk accepts exactly the graphs whose nodes are entered once and whose loops are left
from the inside.**  On a graph that passes the check, where every attempt to emit a node succeeds,
the walk returns statements exactly if one trail from the entry enters every node but an end and
every trail that comes back to an open loop has opened it last.  Otherwise the walk names a node for
which this fails. -/
theorem body_accepts_iff {context : Context} {draft : Draft}
    (valid : validate context.graph = .ok ())
    (emits : ∀ attempt ∈ attempts context.graph (notingEmitter context) draft,
      attempt.result.isOk) :
    ((∃ block last, body context draft = (.ok block, last)) ↔
      (∀ node ∈ context.graph.nodes, node.kind ≠ .finish → EnteredOnce context.graph node.id) ∧
        ∀ id, ReturnsInnermost context.graph id) ∧
      ∀ found last, body context draft = (.error found, last) → Blames context.graph found := by
  have checked := checked_of_validate valid
  have fits := notingEmitter_fits context
  have blames : ∀ found last, body context draft = (.error found, last) →
      Blames context.graph found := by
    intro found last stopped
    rcases bind_eq_error.1 stopped with surveyed | ⟨_, _, _, returned⟩
    · exact survey_blames checked fits emits surveyed
    · cases returned
  refine ⟨⟨?_, ?_⟩, blames⟩
  · rintro ⟨block, last, walked⟩
    obtain ⟨route, surveyed, _⟩ := linearize_eq_ok.1 walked
    obtain ⟨follows, once, -⟩ := survey_leaves fits surveyed
    refine ⟨fun node listed inner => ?_, fun id edges opened trail inside => ?_⟩
    · have known := Graph.node?_eq_some_iff.2 ⟨listed, rfl⟩
      obtain ⟨call, called, same⟩ := follows.visited_of_reaches checked
        (checked.reached node.id (Graph.mem_nodeIds_iff.2 ⟨node, known⟩))
      obtain ⟨edges, opened, trail, out⟩ := follows.trail_of_call rfl called
      rw [same] at trail out
      refine ⟨edges, ⟨opened, trail, out⟩, ?_⟩
      rintro more ⟨opened', trail', out'⟩
      exact follows.trail_unique checked once rfl known inner trail' out' trail out
    · exact (follows.explores checked rfl trail).1 inside
  · rintro ⟨once, returns⟩
    rcases run : body context draft with ⟨found | block, last⟩
    · obtain ⟨_, node, listed, _, ⟨inner, entered⟩ | inside⟩ := blames found last run
      · exact absurd (once node listed inner) entered
      · exact absurd (returns node.id) inside
    · exact ⟨block, last, rfl⟩

/-- The body of the polling loop comes back to the loop, on the only trail that enters it. -/
theorem polling_accepted :
    validate pollingContext.graph = .ok () ∧
      (∀ attempt ∈ attempts pollingContext.graph (notingEmitter pollingContext) {},
        attempt.result.isOk) ∧
      EnteredOnce pollingContext.graph (Text.ofString "w") ∧
      ReturnsInnermost pollingContext.graph (Text.ofString "w") := by
  obtain ⟨block, last, walked⟩ := polling_walked
  have emits : ∀ attempt ∈ attempts pollingContext.graph (notingEmitter pollingContext) {},
      attempt.result.isOk := by
    obtain ⟨route, surveyed, _⟩ := linearize_eq_ok.1 walked
    rw [attempts_eq_calls surveyed]
    intro attempt attempted
    obtain ⟨call, _, rfl⟩ := mem_map.1 attempted
    rfl
  obtain ⟨once, returns⟩ := (body_accepts_iff polling_valid emits).1.1 ⟨block, last, walked⟩
  refine ⟨polling_valid, emits, once { id := "w", config := .loop "true" } ?_ ?_, returns _⟩
  · exact mem_of_getElem? (i := 1) rfl
  · exact nofun

end AgentFlow.Linear
