import AgentFlow.Proofs.Emit.Fitting
import AgentFlow.Proofs.Linear.Walk

/-!
# What a whole walk leaves behind

A walk that returns leaves a route that follows the graph: at each node the ways that were walked
are the ways on from there, and a way that goes back goes back to the innermost open loop.  The
nodes entered on the way are those of the route's calls, ends left out, and no node is entered
twice.
-/

namespace AgentFlow.Linear

open List Workflow Emit Stoppable

/-- The edge that an arrival follows, if it follows one. -/
def Arrival.edge? : Arrival → Option Edge
  | start _ => none
  | via edge => some edge

namespace Route

mutual

/-- The visits of a route, in order: how a node is arrived at, and the call of the emitter there. -/
def visits : Route → List (Arrival × Call)
  | .stop _ => []
  | .back _ => []
  | .visit arrival call ways => (arrival, call) :: visitsOf ways

def visitsOf : List Route → List (Arrival × Call)
  | [] => []
  | way :: rest => way.visits ++ visitsOf rest

end

def calls (route : Route) : List Call := route.visits.map Prod.snd

mutual

/-- The edges that a route follows, in order: one for each look-up of a successor that found an
edge. -/
def followed : Route → List Edge
  | .stop _ => []
  | .back arrival => arrival.edge?.toList
  | .visit arrival _ ways => arrival.edge?.toList ++ followedBy ways

def followedBy : List Route → List Edge
  | [] => []
  | way :: rest => way.followed ++ followedBy rest

end

/-- What holds of a route when it holds of its ways holds of all routes. -/
theorem induction {motive : Route → Prop} (stop : ∀ path, motive (.stop path))
    (back : ∀ arrival, motive (.back arrival))
    (visit : ∀ arrival call ways, (∀ way ∈ ways, motive way) → motive (.visit arrival call ways)) :
    ∀ route, motive route
  | .stop path => stop path
  | .back arrival => back arrival
  | .visit arrival call ways => visit arrival call ways fun way _ => induction stop back visit way

variable (arrival : Arrival) (call : Call) (ways : List Route)

theorem visitsOf_eq : visitsOf ways = ways.flatMap visits := by
  induction ways with
  | nil => rfl
  | cons way rest ih => rw [visitsOf, ih, flatMap_cons]

theorem followedBy_eq : followedBy ways = ways.flatMap followed := by
  induction ways with
  | nil => rfl
  | cons way rest ih => rw [followedBy, ih, flatMap_cons]

theorem blocks_eq : blocks ways = ways.map block := by
  induction ways with
  | nil => rfl
  | cons way rest ih => rw [blocks, ih, map_cons]

theorem visits_visit :
    (visit arrival call ways).visits = (arrival, call) :: ways.flatMap visits := by
  rw [visits, visitsOf_eq]

theorem calls_visit :
    (visit arrival call ways).calls = call :: ways.flatMap calls := by
  rw [calls, visits_visit, map_cons, map_flatMap]
  rfl

theorem followed_visit :
    (visit arrival call ways).followed = arrival.edge?.toList ++ ways.flatMap followed := by
  rw [followed, followedBy_eq]

theorem block_visit :
    (visit arrival call ways).block = call.assemble (ways.map block) := by
  rw [block, blocks_eq]

/-- The ids of the nodes that are entered on a route, ends left out. -/
def entered (route : Route) : List Text :=
  (route.calls.filter fun call => call.node.kind ≠ .finish).map fun call => call.node.id

theorem entered_visit :
    (visit arrival call ways).entered = recorded call.node [] ++ ways.flatMap entered := by
  have later : ((ways.flatMap calls).filter fun call => call.node.kind ≠ .finish).map
      (fun call => call.node.id) = ways.flatMap entered := by
    rw [filter_flatMap, map_flatMap]
    rfl
  unfold entered recorded at *
  rw [calls_visit, filter_cons]
  split <;> simp_all

end Route

/-- What holds of nothing and of all blocks holds of the first of them and of the last. -/
theorem ends_of_all {α : Type} {property : List α → Prop} {blocks : List (List α)}
    (nil : property []) (each : ∀ block ∈ blocks, property block) :
    property (blocks.headD []) ∧ property (blocks.getLastD []) := by
  cases blocks with
  | nil => exact ⟨nil, nil⟩
  | cons block rest =>
    rw [getLastD_cons]
    exact ⟨each block mem_cons_self, each _ (getLastD_mem_cons ..)⟩

/-- A route follows a graph from an arrival, on a path. -/
inductive Follows (graph : Graph) : Option Arrival → Path → Route → Prop
  | stop (path : Path) : Follows graph none path (.stop path)
  | back {arrival : Arrival} {path : Path} (innermost : path.openLoops.getLast? = some arrival.id) :
      Follows graph (some arrival) path (.back arrival)
  | visit {arrival : Arrival} {call : Call} {ways} (known : graph.node? arrival.id = some call.node)
      (away : arrival.id ∉ call.path.openLoops) (fits : call.emission.Fits call.node.config)
      (onward : List.Forall₂ (fun way route => Follows graph (way.edge.map .via) way.path route)
        (waysOn graph call) ways) :
      Follows graph (some arrival) call.path (.visit arrival call ways)

variable {σ : Type} {graph : Graph} {emit : Emitter σ}

/-- What holds of a visit when it holds of the ways on from there holds of all routes that follow a
graph. -/
@[induction_eliminator]
theorem Follows.induction
    {motive : ∀ arrival path route, Follows graph arrival path route → Prop}
    (stop : ∀ path, motive none path (.stop path) (.stop path))
    (back : ∀ arrival path innermost, motive (some arrival) path (.back arrival) (.back innermost))
    (visit : ∀ arrival call ways known away fits onward,
      List.Forall₂ (fun way route => ∃ follows, motive (way.edge.map .via) way.path route follows)
        (waysOn graph call) ways →
      motive (some arrival) call.path (.visit arrival call ways) (.visit known away fits onward))
    {arrival : Option Arrival} {path : Path} {route : Route}
    (follows : Follows graph arrival path route) : motive arrival path route follows := by
  induction route using Route.induction generalizing arrival path with
  | stop last =>
    cases follows
    exact stop last
  | back arrival =>
    cases follows with
    | back innermost => exact back arrival path innermost
  | visit arrival call ways ih =>
    cases follows with
    | visit known away fits onward =>
      refine visit arrival call ways known away fits onward ?_
      refine forall₂_iff_zip.2 ⟨onward.length_eq, fun {way route} member => ?_⟩
      exact ⟨_, ih route (of_mem_zip member).2 (forall₂_zip onward member)⟩

theorem Follows.of_visit {arrival other : Arrival} {path : Path} {call : Call} {ways : List Route}
    (follows : Follows graph (some arrival) path (.visit other call ways)) :
    other = arrival ∧ path = call.path ∧ graph.node? arrival.id = some call.node ∧
      call.emission.Fits call.node.config ∧
      List.Forall₂ (fun way route => Follows graph (way.edge.map .via) way.path route)
        (waysOn graph call) ways := by
  cases follows with
  | visit known _ fits onward => exact ⟨rfl, rfl, known, fits, onward⟩

/-- An emitter whose emissions fit the nodes. -/
def Emitter.Fits (emit : Emitter σ) : Prop :=
  ∀ node path, Returns (emit node path) (Emission.Fits · node.config)

/-- Calls of an emitter that were made one after the other, from a state on to a state. -/
inductive Along (emit : Emitter σ) : σ → List Call → σ → Prop
  | nil (state : σ) : Along emit state [] state
  | cons {state middle last} {call : Call} {rest}
      (emitted : emit call.node call.path state = (.ok call.emission, middle))
      (more : Along emit middle rest last) : Along emit state (call :: rest) last

theorem Along.append {state middle last : σ} {calls others : List Call}
    (first : Along emit state calls middle) (second : Along emit middle others last) :
    Along emit state (calls ++ others) last := by
  induction first with
  | nil => exact second
  | cons emitted _ ih => exact .cons emitted (ih second)

/-- What a walk leaves behind, apart from the way that its route goes: the calls of the route have
been made in their order, and its nodes have been entered, none of them twice. -/
structure Leaves (emit : Emitter σ) (progress last : Progress σ) (calls : List Call)
    (entered : List Text) : Prop where
  along : Along emit progress.inner calls last.inner
  entered : last.entered = progress.entered ++ entered
  distinct : progress.entered.Nodup → last.entered.Nodup

theorem Leaves.refl (progress : Progress σ) : Leaves emit progress progress [] [] :=
  ⟨.nil _, by simp, id⟩

theorem Leaves.append {progress middle last : Progress σ} {calls calls' : List Call}
    {entered entered' : List Text} (first : Leaves emit progress middle calls entered)
    (second : Leaves emit middle last calls' entered') :
    Leaves emit progress last (calls ++ calls') (entered ++ entered') where
  along := first.along.append second.along
  entered := by rw [second.entered, first.entered, append_assoc]
  distinct start := second.distinct (first.distinct start)

theorem walkAll_leaves {fuel : Nat}
    (each : ∀ arrival path (progress last : Progress σ) route,
      walk graph emit fuel arrival path progress = (.ok route, last) →
        Follows graph arrival path route ∧ Leaves emit progress last route.calls route.entered) :
    ∀ (ways : List Way) (progress last : Progress σ) (routes : List Route),
      walkAll graph emit fuel ways progress = (.ok routes, last) →
        List.Forall₂ (fun way route => Follows graph (way.edge.map .via) way.path route) ways
            routes ∧
          Leaves emit progress last (routes.flatMap Route.calls) (routes.flatMap Route.entered)
  | [], progress, last, routes, done => by
    cases done
    exact ⟨.nil, .refl progress⟩
  | way :: rest, progress, last, routes, done => by
    obtain ⟨route, middle, others, first, second, rfl⟩ := mapM_cons_eq_ok.1 done
    obtain ⟨follows, leaves⟩ := each _ _ _ _ _ first
    obtain ⟨onward, more⟩ := walkAll_leaves each rest middle last others second
    exact ⟨.cons follows onward, leaves.append more⟩

theorem nodup_recorded {node : Node} {entered : List Text}
    (fresh : node.kind ≠ .finish → node.id ∉ entered) (distinct : entered.Nodup) :
    (recorded node entered).Nodup := by
  unfold recorded
  split
  · exact distinct
  · next inner =>
      rw [← concat_eq_append, nodup_concat]
      exact ⟨fresh inner, distinct⟩

theorem recorded_eq (node : Node) (entered : List Text) :
    recorded node entered = entered ++ recorded node [] := by
  unfold recorded
  split <;> simp

theorem leaves_of_visit {arrival : Arrival} {path : Path} {progress last : Progress σ} {call : Call}
    (visited : visit graph emit arrival path progress = (.ok call, last)) :
    Leaves emit progress last [call] (recorded call.node []) := by
  obtain ⟨_, rfl, fresh, emitted, entered⟩ := visit_eq_ok visited
  refine ⟨.cons emitted (.nil _), entered.trans (recorded_eq _ _), fun start => ?_⟩
  exact entered ▸ nodup_recorded fresh start

/-- **What a walk leaves behind.** -/
theorem walk_leaves (fits : emit.Fits) :
    ∀ (fuel : Nat) (arrival : Option Arrival) (path : Path) (progress last : Progress σ)
      (route : Route), walk graph emit fuel arrival path progress = (.ok route, last) →
        Follows graph arrival path route ∧ Leaves emit progress last route.calls route.entered
  | fuel, none, path, progress, last, route, done => by
    rw [walk_nowhere] at done
    cases done
    exact ⟨.stop path, .refl progress⟩
  | 0, some arrival, path, progress, last, route, done => by
    cases done
  | fuel + 1, some arrival, path, progress, last, route, done => by
    cases arrived_of_walk done with
    | back innermost => exact ⟨.back innermost, .refl progress⟩
    | visit away visited walked =>
      obtain ⟨known, rfl, _, emitted, _⟩ := visit_eq_ok visited
      obtain ⟨onward, leaves⟩ := walkAll_leaves (walk_leaves fits fuel) _ _ _ _ walked
      refine ⟨.visit known away (fits _ _ emitted) onward, ?_⟩
      rw [Route.calls_visit, Route.entered_visit]
      exact (leaves_of_visit visited).append leaves

/-- The route through a graph follows it from the entry, and enters no node twice. -/
theorem survey_leaves (fits : emit.Fits) {state last : σ} {route : Route}
    (done : survey graph emit state = (.ok route, last)) :
    Follows graph (some (.start graph.entryId)) {} route ∧ route.entered.Nodup ∧
      Along emit state route.calls last := by
  obtain ⟨progress, walked, rfl⟩ := exists_walk_of_survey done
  obtain ⟨follows, leaves⟩ := walk_leaves fits _ _ _ _ _ _ walked
  have distinct := leaves.distinct
  rw [leaves.entered] at distinct
  exact ⟨follows, distinct nodup_nil, leaves.along⟩

theorem Along.calls {property : Call → Prop} (emits : ∀ node path,
    Returns (emit node path) fun emission => property ⟨node, path, emission⟩) {state last : σ}
    {calls : List Call} (along : Along emit state calls last) : ∀ call ∈ calls, property call := by
  induction along with
  | nil => exact forall_mem_nil _
  | cons emitted _ ih => exact forall_mem_cons.2 ⟨emits _ _ emitted, ih⟩

theorem notingEmitter_fits (context : Context) : Emitter.Fits (notingEmitter context) :=
  fun node path => notingEmitter_returns (emission_fits context node path)

theorem survey_calls {context : Context} {property : Call → Prop} (emits : ∀ node path,
    Returns (emission context node path) fun emission => property ⟨node, path, emission⟩)
    {draft last : Draft} {route : Route}
    (done : survey graph (notingEmitter context) draft = (.ok route, last)) :
    ∀ call ∈ route.calls, property call :=
  (survey_leaves (notingEmitter_fits context) done).2.2.calls fun node path =>
    notingEmitter_returns (emits node path)

/-- The statements of a graph are those of the route through it. -/
theorem linearize_eq_ok {state last : σ} {block : Block} :
    linearize graph emit state = (.ok block, last) ↔
      ∃ route, survey graph emit state = (.ok route, last) ∧ route.block = block := by
  unfold linearize
  rw [bind_eq_ok]
  constructor
  · rintro ⟨route, middle, surveyed, same⟩
    cases same
    exact ⟨route, surveyed, rfl⟩
  · rintro ⟨route, surveyed, rfl⟩
    exact ⟨route, last, surveyed, rfl⟩

end AgentFlow.Linear
