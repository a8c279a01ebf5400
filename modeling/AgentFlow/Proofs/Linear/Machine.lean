import AgentFlow.Proofs.Linear.Follows
import AgentFlow.Proofs.Linear.Ways
import Mathlib.Data.List.Perm.Subperm

/-!
# The walk ends on every graph

The walk is told how many nodes it may visit one after the other.  Here it is a machine that is not
told: it keeps the walks still to be made, takes the first, and puts the ways on from its node in
front of the others.  It halts with what the walk comes to, so the fuel is never used up.
-/

namespace AgentFlow.Linear

open List Workflow Emit Stoppable

variable {σ : Type}

/-! ## The machine -/

/-- The walks still to be made, the calls of the emitter so far, and the state of the walk. -/
structure Machine (σ : Type) where
  pending : List (Option Arrival × Path)
  calls : List Call
  progress : Progress σ

/-- The walk along a way. -/
def Way.ahead (way : Way) : Option Arrival × Path := (way.edge.map .via, way.path)

/-- A step of the machine takes the first walk up.  It halts where there is none, or with an
error. -/
def Machine.step (graph : Graph) (emit : Emitter σ) (machine : Machine σ) :
    Machine σ ⊕ Except Error (List Call) × σ :=
  match machine.pending with
  | [] => .inr (.ok machine.calls, machine.progress.inner)
  | (none, _) :: rest => .inl { machine with pending := rest }
  | (some arrival, path) :: rest =>
    if arrival.id ∈ path.openLoops then
      if path.openLoops.getLast? = some arrival.id then .inl { machine with pending := rest }
      else .inr (.error (.problemOf arrival.id (.reentered arrival.id)), machine.progress.inner)
    else
      match visit graph emit arrival path machine.progress with
      | (.error found, last) => .inr (.error found, last.inner)
      | (.ok call, last) =>
        .inl ⟨(waysOn graph call).map Way.ahead ++ rest, machine.calls ++ [call], last⟩

def Machine.start (graph : Graph) (inner : σ) : Machine σ :=
  ⟨[(some (.start graph.entryId), {})], [], { inner }⟩

/-- The machine halts after finitely many steps, with a result and a state of the emitter. -/
inductive Halts (graph : Graph) (emit : Emitter σ) (result : Except Error (List Call)) (inner : σ) :
    Machine σ → Prop
  | here {machine : Machine σ} (halted : machine.step graph emit = .inr (result, inner)) :
      Halts graph emit result inner machine
  | later {machine next : Machine σ} (stepped : machine.step graph emit = .inl next)
      (halts : Halts graph emit result inner next) : Halts graph emit result inner machine

/-- The machines that a machine comes to. -/
inductive Comes (graph : Graph) (emit : Emitter σ) (first : Machine σ) : Machine σ → Prop
  | here : Comes graph emit first first
  | later {machine next : Machine σ} (comes : Comes graph emit first machine)
      (stepped : machine.step graph emit = .inl next) : Comes graph emit first next

/-! ## What a step keeps -/

variable {graph : Graph} {emit : Emitter σ} {fuel : Nat} {arrival : Arrival} {path : Path}
  {progress last : Progress σ} {call : Call}

/-- A loop with the given id is among the nodes of calls. -/
def LoopAmong (calls : List Call) (id : Text) : Prop :=
  ∃ call ∈ calls, call.node.id = id ∧ ∃ condition, call.node.config = .loop condition

/-- No node but an end is emitted twice, and the loops open on a pending walk are different loops
that have been emitted. -/
structure Machine.Sound (machine : Machine σ) : Prop where
  entered : machine.progress.entered =
    (machine.calls.filter fun call => call.node.kind ≠ .finish).map fun call => call.node.id
  distinct : machine.progress.entered.Nodup
  opened : ∀ walk ∈ machine.pending,
    walk.2.openLoops.Nodup ∧ ∀ id ∈ walk.2.openLoops, LoopAmong machine.calls id

theorem Machine.sound_start (graph : Graph) (inner : σ) : (Machine.start graph inner).Sound :=
  ⟨rfl, .nil, forall_mem_singleton.2 ⟨.nil, forall_mem_nil _⟩⟩

/-- A visit keeps a machine sound: the loops open on the ways on are those of the path, and maybe
the node itself, which is not among them. -/
theorem Machine.Sound.visit {rest : List (Option Arrival × Path)}
    {calls : List Call} (sound : Machine.Sound ⟨(some arrival, path) :: rest, calls, progress⟩)
    (away : arrival.id ∉ path.openLoops)
    (visited : Linear.visit graph emit arrival path progress = (.ok call, last)) :
    Machine.Sound ⟨(waysOn graph call).map Way.ahead ++ rest, calls ++ [call], last⟩ := by
  obtain ⟨known, rfl, fresh, _, entered⟩ := visit_eq_ok visited
  obtain ⟨here, others⟩ := forall_mem_cons.1 sound.opened
  have wider : ∀ id, LoopAmong calls id → LoopAmong (calls ++ [call]) id :=
    fun id ⟨other, called, holds⟩ => ⟨other, mem_append_left _ called, holds⟩
  refine ⟨?_, entered ▸ nodup_recorded fresh sound.distinct, forall_mem_append.2
    ⟨fun walk member => ?_, fun walk member =>
      (others walk member).imp_right fun opened id inside =>
      wider id (opened id inside)⟩⟩
  · have before := sound.entered
    dsimp only at before ⊢
    rw [entered, recorded, before, filter_append, map_append, filter_singleton]
    split <;> simp_all
  · obtain ⟨way, looked, rfl⟩ := mem_map.1 member
    change way.path.openLoops.Nodup ∧ ∀ id ∈ way.path.openLoops, _
    rcases openLoops_along looked with same | ⟨loop, more⟩
    · rw [same]
      exact here.imp_right fun opened id inside => wider id (opened id inside)
    · rw [more, ← concat_eq_append, nodup_concat]
      have same := (Graph.node?_eq_some_iff.1 known).2
      refine ⟨⟨same ▸ away, here.1⟩, fun id inside => ?_⟩
      rw [concat_eq_append] at inside
      rcases mem_append.1 inside with old | new
      · exact wider id (here.2 id old)
      · exact ⟨call, by simp, (mem_singleton.1 new).symm, loop⟩

theorem Machine.Sound.step {machine next : Machine σ} (sound : machine.Sound)
    (stepped : machine.step graph emit = .inl next) : next.Sound := by
  obtain ⟨_ | ⟨⟨_ | arrival, path⟩, rest⟩, calls, progress⟩ := machine
  · cases stepped
  · cases stepped
    exact ⟨sound.entered, sound.distinct, (forall_mem_cons.1 sound.opened).2⟩
  · rw [Machine.step] at stepped
    dsimp only at stepped
    split at stepped
    · split at stepped
      · cases stepped
        exact ⟨sound.entered, sound.distinct, (forall_mem_cons.1 sound.opened).2⟩
      · cases stepped
    · next away =>
        split at stepped
        · cases stepped
        · next visited =>
            cases stepped
            exact sound.visit away visited

theorem Comes.sound {first machine : Machine σ} (sound : first.Sound)
    (comes : Comes graph emit first machine) : machine.Sound := by
  induction comes with
  | here => exact sound
  | later _ stepped ih => exact ih.step stepped

/-! ## The walk as a run of the machine -/

/-- The nodes recorded so far leave fuel for the others. -/
structure Room (graph : Graph) (fuel : Nat) (entered : List Text) : Prop where
  distinct : entered.Nodup
  known : entered ⊆ graph.nodeIds
  enough : graph.nodes.length < fuel + entered.length

theorem Room.fuel_ne_zero {entered : List Text} (room : Room graph fuel entered) : fuel ≠ 0 := by
  have most : entered.length ≤ graph.nodes.length := by
    simpa [Graph.nodeIds] using (subperm_of_subset room.distinct room.known).length_le
  have := room.enough
  omega

theorem Room.succ {entered : List Text} (room : Room graph fuel entered) :
    Room graph (fuel + 1) entered :=
  ⟨room.distinct, room.known, by have := room.enough; omega⟩

/-- A node that is visited uses up fuel, and leaves as many nodes fewer. -/
theorem Room.visit (room : Room graph (fuel + 1) progress.entered)
    (visited : Linear.visit graph emit arrival path progress = (.ok call, last))
    (inner : call.node.kind ≠ .finish) : Room graph fuel last.entered := by
  obtain ⟨known, _, fresh, _, entered⟩ := visit_eq_ok visited
  have recorded : last.entered = progress.entered ++ [call.node.id] := by
    rw [entered, recorded, if_neg inner]
  refine ⟨entered ▸ nodup_recorded fresh room.distinct, ?_, ?_⟩
  · rw [recorded]
    refine append_subset.2 ⟨room.known, forall_mem_singleton.2 ?_⟩
    exact Graph.mem_nodeIds_iff.2 ⟨_, (Graph.node?_eq_some_iff.1 known).2 ▸ known⟩
  · have := room.enough
    rw [recorded, length_append, length_singleton]
    omega

/-- What a machine does that has walks to make before others, given what comes of them: it halts
with their error, or it goes on with the others after their calls. -/
def Completes (graph : Graph) (emit : Emitter σ) (fuel : Nat)
    (pending : List (Option Arrival × Path)) (progress : Progress σ) {α : Type}
    (callsOf : α → List Call) : Except Error α × Progress σ → Prop
  | (.ok value, last) => Room graph fuel last.entered ∧ ∀ rest calls result inner,
      Halts graph emit result inner ⟨rest, calls ++ callsOf value, last⟩ →
        Halts graph emit result inner ⟨pending ++ rest, calls, progress⟩
  | (.error found, last) => ∀ rest calls,
      Halts graph emit (.error found) last.inner ⟨pending ++ rest, calls, progress⟩

theorem Completes.succ {pending : List (Option Arrival × Path)} {α : Type} {callsOf : α → List Call}
    {result : Except Error α × Progress σ}
    (completes : Completes graph emit fuel pending progress callsOf result) :
    Completes graph emit (fuel + 1) pending progress callsOf result := by
  obtain ⟨_ | value, last⟩ := result
  · exact completes
  · exact ⟨completes.1.succ, completes.2⟩

theorem walkAll_completes
    (each : ∀ arrival path (progress : Progress σ), Room graph fuel progress.entered →
      Completes graph emit fuel [(arrival, path)] progress Route.calls
        (walk graph emit fuel arrival path progress)) :
    ∀ (ways : List Way) (progress : Progress σ), Room graph fuel progress.entered →
      Completes graph emit fuel (ways.map Way.ahead) progress (·.flatMap Route.calls)
        (walkAll graph emit fuel ways progress)
  | [], progress, room => ⟨room, fun rest calls result inner halts => by simpa using halts⟩
  | way :: ways, progress, room => by
    have first := each (way.edge.map .via) way.path progress room
    rw [walkAll, mapM_cons, bind_run]
    generalize walk graph emit fuel (way.edge.map .via) way.path progress = walked at first ⊢
    obtain ⟨_ | route, middle⟩ := walked
    · exact fun rest calls => first _ _
    · have others := walkAll_completes each ways middle first.1
      dsimp only
      rw [bind_run, ← walkAll]
      generalize walkAll graph emit fuel ways middle = walked at others ⊢
      obtain ⟨_ | routes, last⟩ := walked
      · exact fun rest calls => first.2 _ _ _ _ (others _ _)
      · refine ⟨others.1, fun rest calls result inner halts => ?_⟩
        refine first.2 _ _ _ _ (others.2 _ _ _ _ ?_)
        rw [append_assoc]
        exact halts

theorem walk_completes : ∀ (fuel : Nat) (arrival : Option Arrival) (path : Path)
    (progress : Progress σ), Room graph fuel progress.entered →
      Completes graph emit fuel [(arrival, path)] progress Route.calls
        (walk graph emit fuel arrival path progress)
  | fuel, none, path, progress, room => by
    rw [walk_nowhere]
    refine ⟨room, fun rest calls result inner halts => .later rfl ?_⟩
    simpa [Route.calls, Route.visits] using halts
  | 0, some arrival, path, progress, room => absurd rfl room.fuel_ne_zero
  | fuel + 1, some arrival, path, progress, room => by
    by_cases inside : arrival.id ∈ path.openLoops
    · rw [walk, if_pos inside]
      split
      · next innermost =>
          refine ⟨room, fun rest calls result inner halts => .later ?_ (append_nil calls ▸ halts)⟩
          simp only [Machine.step, cons_append, if_pos inside, if_pos innermost]
          rfl
      · next outer =>
          refine fun rest calls => .here ?_
          simp only [Machine.step, cons_append, if_pos inside, if_neg outer]
    · rw [walk_visit_run inside, bind_run]
      rcases visited : visit graph emit arrival path progress with ⟨found | call, middle⟩
      · refine fun rest calls => .here ?_
        simp only [Machine.step, cons_append, if_neg inside, visited]
      · have stepped : ∀ rest calls,
            Machine.step graph emit ⟨[(some arrival, path)] ++ rest, calls, progress⟩ =
              .inl ⟨(waysOn graph call).map Way.ahead ++ rest, calls ++ [call], middle⟩ := by
          intro rest calls
          simp only [Machine.step, cons_append, if_neg inside, visited, nil_append]
        have onward : Completes graph emit (fuel + 1) ((waysOn graph call).map Way.ahead) middle
            (·.flatMap Route.calls) (walkAll graph emit fuel (waysOn graph call) middle) := by
          by_cases finish : call.node.kind = .finish
          · have none : waysOn graph call = [] := eq_nil_iff_forall_not_mem.2
              fun way member => not_finish_of_way member finish
            rw [none]
            refine ⟨?_, fun rest calls result inner halts => by simpa using halts⟩
            rw [(visit_eq_ok visited).2.2.2.2, recorded, if_pos finish]
            exact room
          · exact (walkAll_completes (walk_completes fuel) _ _ (room.visit visited finish)).succ
        dsimp only
        rw [bind_run]
        generalize walkAll graph emit fuel (waysOn graph call) middle = walked at onward ⊢
        obtain ⟨_ | ways, last⟩ := walked
        · exact fun rest calls => .later (stepped rest calls) (onward _ _)
        · refine ⟨onward.1, fun rest calls result inner halts => .later (stepped rest calls) ?_⟩
          refine onward.2 _ _ _ _ ?_
          rw [Route.calls_visit] at halts
          simpa using halts

/-- **The walk ends on every graph.**  Whatever the graph is and whatever the emitter does, the
machine halts with the calls of the walk, or with its error, and leaves the same state.  At each
point of the run, no node but an end has been emitted twice, and the loops that are open on a walk
still to be made are different loops that have been emitted. -/
theorem walk_halts (graph : Graph) (emit : Emitter σ) (inner : σ) :
    Halts graph emit ((survey graph emit inner).1.map Route.calls) (survey graph emit inner).2
        (Machine.start graph inner) ∧
      ∀ machine, Comes graph emit (Machine.start graph inner) machine →
        ((machine.calls.filter fun call => call.node.kind ≠ .finish).map
          fun call => call.node.id).Nodup ∧
        ∀ walk ∈ machine.pending,
          walk.2.openLoops.Nodup ∧ ∀ id ∈ walk.2.openLoops, LoopAmong machine.calls id := by
  refine ⟨?_, fun machine comes => ?_⟩
  · have room : Room graph (graph.nodes.length + 1) ({ inner } : Progress σ).entered :=
      ⟨.nil, nil_subset _, by simp⟩
    have completes : Completes graph emit _ _ _ Route.calls _ :=
      walk_completes _ (some (.start graph.entryId)) {} _ room
    rw [survey]
    generalize walk graph emit (graph.nodes.length + 1) _ _ _ = walked at completes ⊢
    obtain ⟨_ | route, last⟩ := walked
    · exact completes [] []
    · exact completes.2 [] [] _ _ (.here rfl)
  · have sound := comes.sound (Machine.sound_start graph inner)
    exact ⟨sound.entered ▸ sound.distinct, sound.opened⟩

end AgentFlow.Linear
