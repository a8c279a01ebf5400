import AgentFlow.Proofs.Linear.Follows

/-!
# A walk that keeps a log of its emitter

An emitter can log every attempt to emit a node, whether it succeeds or not.  A walk with the
logging emitter does what the walk does anyway, and where it returns a route, its log lists the
calls of the route in their order: the calls that a route records are the calls that were made.
-/

namespace AgentFlow.Linear

open List Workflow Emit Stoppable

/-- An attempt to emit a node. -/
structure Attempt where
  node : Node
  path : Path
  result : Except Error Emission

def Call.attempt (call : Call) : Attempt := ⟨call.node, call.path, .ok call.emission⟩

variable {σ α β : Type} {graph : Graph}

/-- The emitter that logs what it is asked for and what comes of it. -/
def Emitter.logged (emit : Emitter σ) : Emitter (σ × List Attempt) :=
  fun node path state =>
    let (result, inner) := emit node path state.1
    (result, inner, state.2 ++ [⟨node, path, result⟩])

/-- The attempts to emit nodes that a walk through a graph makes, in their order. -/
def attempts (graph : Graph) (emit : Emitter σ) (state : σ) : List Attempt :=
  (survey graph emit.logged (state, [])).2.2

/-! ## Work with and without a log -/

/-- Logged work does what the work does, and what it logs goes with the value it returns. -/
def Mirrors (work : Walk σ α) (logged : Walk (σ × List Attempt) α)
    (logs : α → List Attempt → Prop) : Prop :=
  ∀ entered inner log, ∃ more,
    logged ⟨entered, inner, log⟩ =
        ((work ⟨entered, inner⟩).1,
          ⟨(work ⟨entered, inner⟩).2.entered, (work ⟨entered, inner⟩).2.inner, log ++ more⟩) ∧
      ∀ value, (work ⟨entered, inner⟩).1 = .ok value → logs value more

namespace Mirrors

variable {work : Walk σ α} {logged : Walk (σ × List Attempt) α} {next : α → Walk σ β}
  {nextLogged : α → Walk (σ × List Attempt) β} {logs : α → List Attempt → Prop}

theorem pure {value : α} (nothing : logs value []) :
    Mirrors (Pure.pure value : Walk σ α) (Pure.pure value) logs := by
  refine fun entered inner log => ⟨[], by rw [append_nil]; rfl, fun other same => ?_⟩
  cases same
  exact nothing

theorem throw (found : Error) :
    Mirrors (MonadExcept.throw found : Walk σ α) (MonadExcept.throw found) logs :=
  fun entered inner log => ⟨[], by rw [append_nil]; rfl, fun _ same => by cases same⟩

theorem bind {last : β → List Attempt → Prop} (first : Mirrors work logged logs)
    (second : ∀ value before, logs value before →
      Mirrors (next value) (nextLogged value) fun result after => last result (before ++ after)) :
    Mirrors (work >>= next) (logged >>= nextLogged) last := by
  intro entered inner log
  obtain ⟨before, done, holds⟩ := first entered inner log
  rw [bind_run, bind_run, done]
  rcases run : work ⟨entered, inner⟩ with ⟨found | value, middle⟩
  · exact ⟨before, rfl, fun _ same => by cases same⟩
  · obtain ⟨after, more, goes⟩ :=
      second value before (holds value (by rw [run])) middle.entered middle.inner (log ++ before)
    exact ⟨before ++ after, by rw [← append_assoc]; exact more, goes⟩

end Mirrors

/-! ## Walks with and without a log -/

variable (emit : Emitter σ)

theorem visit_mirrors (arrival : Arrival) (path : Path) :
    Mirrors (visit graph emit arrival path) (visit graph emit.logged arrival path) fun call more =>
      more = [call.attempt] := by
  intro entered inner log
  simp only [visit_run]
  cases graph.node? arrival.id with
  | none => exact ⟨[], by rw [append_nil], fun _ same => by cases same⟩
  | some node =>
    dsimp only
    split
    · exact ⟨[], by rw [append_nil], fun _ same => by cases same⟩
    · refine ⟨[⟨node, path, (emit node path inner).1⟩], rfl, fun call same => ?_⟩
      cases result : (emit node path inner).1 <;> rw [result] at same <;> cases same
      rfl

theorem walkAll_mirrors {fuel : Nat}
    (each : ∀ arrival path, Mirrors (walk graph emit fuel arrival path)
      (walk graph emit.logged fuel arrival path) fun route more =>
        more = route.calls.map Call.attempt) :
    ∀ ways : List Way, Mirrors (walkAll graph emit fuel ways) (walkAll graph emit.logged fuel ways)
      fun routes more => more = (routes.flatMap Route.calls).map Call.attempt
  | [] => .pure rfl
  | way :: rest => by
    unfold walkAll
    rw [mapM_cons, mapM_cons]
    refine .bind (each _ _) fun route before calls => ?_
    refine .bind (walkAll_mirrors each rest) fun routes after more => .pure ?_
    rw [append_nil, calls, more, flatMap_cons, map_append]

/-- **Logging changes nothing, and logs the calls of the route.** -/
theorem walk_mirrors : ∀ (fuel : Nat) (arrival : Option Arrival) (path : Path),
    Mirrors (walk graph emit fuel arrival path) (walk graph emit.logged fuel arrival path)
      fun route more => more = route.calls.map Call.attempt
  | fuel, none, path => by
    cases fuel <;> exact .pure rfl
  | 0, some arrival, path => .throw _
  | fuel + 1, some arrival, path => by
    by_cases inside : arrival.id ∈ path.openLoops
    · rw [walk, walk, if_pos inside, if_pos inside]
      split
      · exact .pure rfl
      · exact .throw _
    · rw [walk_visit_run inside, walk_visit_run inside]
      refine .bind (visit_mirrors emit arrival path) fun call before attempt => ?_
      refine .bind (walkAll_mirrors emit (walk_mirrors fuel) _) fun ways more calls => .pure ?_
      subst attempt calls
      simp [Route.calls_visit]

variable {emit} {state last : σ} {route : Route}

theorem survey_logged (graph : Graph) (emit : Emitter σ) (state : σ) :
    (survey graph emit.logged (state, [])).1 = (survey graph emit state).1 := by
  obtain ⟨more, done, _⟩ :=
    walk_mirrors emit (graph.nodes.length + 1) (some (.start graph.entryId)) {} [] state []
  exact congrArg Prod.fst done

theorem attempts_eq_calls (done : survey graph emit state = (.ok route, last)) :
    attempts graph emit state = route.calls.map Call.attempt := by
  obtain ⟨more, run, logs⟩ :=
    walk_mirrors emit (graph.nodes.length + 1) (some (.start graph.entryId)) {} [] state []
  rw [← logs route (congrArg Prod.fst done)]
  unfold attempts survey
  rw [run, nil_append]

end AgentFlow.Linear
