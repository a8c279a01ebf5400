import AgentFlow.Proofs.Linear.Trail
import AgentFlow.Proofs.Run.Semantics

/-!
# The statements of a graph run as the graph does

While the graph machine is at a node, the tree machine has the statements of a route from there
before it, and after them those of the loops around it.  A visit of the node takes both to such a
point again.
-/

namespace AgentFlow.Run

open List Workflow Emit Linear

variable {graph : Graph} {whole route : Route} {arrival : Arrival} {call : Call} {path : Path}
  {ways : List Route} {rest block : Block} {oracle oracle' : Oracle} {events : List Event}
  {next : Next Arrival} {index : Nat} {tag : Tag}

/-- What is left to do after the statements at hand: the loops around them, each with what follows
it. -/
inductive Rest (graph : Graph) (whole : Route) : List Text → Block → Prop
  | outside : Rest graph whole [] []
  | inside {arrival : Arrival} {call : Call} {ways : List Route} {rest : Block}
      (around : Rest graph whole call.path.openLoops rest) (loop : call.node.kind = .loop)
      (follows : Follows graph (some arrival) call.path (.visit arrival call ways))
      (part : (Route.visit arrival call ways).visits ⊆ whole.visits) :
      Rest graph whole (call.path.openLoops ++ [call.node.id])
        ((Route.visit arrival call ways).block ++ rest)

/-- The statements before the tree machine while the graph machine is at an arrival. -/
def Related (graph : Graph) (whole : Route) (arrival : Arrival) (block : Block) : Prop :=
  ∃ path route rest, Follows graph (some arrival) path route ∧ route.visits ⊆ whole.visits ∧
    Rest graph whole path.openLoops rest ∧ block = route.block ++ rest

/-! ## Leaving a node -/

/-- The tree machine does what a visit of the graph machine does, and then has one of the ways on
before it. -/
def Matches (graph : Graph) (whole : Route) (ways : List Route) (oracle : Oracle) (block : Block) :
    List Event × Next Arrival → Prop
  | (events, .ended ending) => ∃ steps value,
      ending = .returned value ∧ Ends tree steps oracle block events ending
  | (events, .onward next oracle') => ∃ steps route path rest,
      Goes tree steps oracle block events oracle' (route.block ++ rest) ∧ route ∈ ways ∧
        Follows graph (some next) path route ∧ Rest graph whole path.openLoops rest

theorem Matches.after {steps : Nat} {more : List Event} {block' : Block}
    (goes : Goes tree steps oracle block events oracle' block')
    (matched : Matches graph whole ways oracle' block' (more, next)) :
    Matches graph whole ways oracle block (events ++ more, next) := by
  cases next with
  | ended ending =>
    obtain ⟨others, value, returned, ends⟩ := matched
    exact ⟨_, value, returned, goes.ends ends⟩
  | onward arrival oracle'' =>
    obtain ⟨others, route, path, rest, later, facts⟩ := matched
    exact ⟨_, route, path, rest, goes.trans later, facts⟩

/-- Going along the exit for a tag, once the statements of its way are before the tree machine. -/
theorem leaveBy_matches {way : Way} (member : route ∈ ways)
    (edge : way.edge = exit? graph call.node tag)
    (follows : Follows graph (way.edge.map .via) way.path route)
    (around : ∀ edge, way.edge = some edge → Rest graph whole way.path.openLoops rest)
    (dangling : way.edge = none → way.path = call.path.after call.emission) :
    Matches graph whole ways oracle (route.block ++ rest) ([], leaveBy graph call tag oracle) := by
  unfold leaveBy
  cases found : exit? graph call.node tag with
  | none =>
    rw [← edge] at found
    rw [found] at follows
    cases follows
    exact ⟨1, _, rfl, dangling found ▸ .one rfl⟩
  | some step =>
    rw [← edge] at found
    rw [found] at follows
    exact ⟨0, route, way.path, rest, .refl _ _ _, member, follows, around step found⟩

theorem openLoops_of_exit {way : Way} {edge : Edge} (tagged : Tagged graph call.node)
    (member : way ∈ waysOn graph call) (found : way.edge = some edge)
    (exit : way.edge = exit? graph call.node tag) (other : tag ≠ .loopBody) :
    way.path.openLoops = call.path.openLoops := by
  obtain ⟨_, _, loops⟩ := openLoops_of_way member found
  rw [loops, openAfter, if_neg]
  intro body
  rw [found] at exit
  have same := (tagged.exit?_eq_some_iff.1 exit.symm).2
  rw [body] at same
  apply other
  rw [← same]
  unfold normalizedTag
  split <;> simp

theorem exit_ne_none (tagged : Tagged graph call.node) (branching : call.node.kind.isLinear = false)
    (required : tag ∈ requiredTags call.node) : exit? graph call.node tag ≠ none := by
  obtain ⟨edge, found⟩ := tagged.exists_exit branching required
  rw [found]
  exact nofun

section Leaving

variable (tagged : Tagged graph call.node) (fits : call.emission.Fits call.node.config)
  (onward : List.Forall₂ (fun way route => Follows graph (way.edge.map .via) way.path route)
    (waysOn graph call) ways)
include tagged fits onward

variable (index) {all : List Tag} (tags : requiredTags call.node = all)
  (required : all[index]? = some tag) (at_route : ways[index]? = some route)

include tags required at_route in
/-- The way for a tag: the walk looked up its exit, and a route follows the graph from there. -/
theorem exists_way :
    ∃ way, (waysOn graph call)[index]? = some way ∧ way.edge = exit? graph call.node tag ∧
      Follows graph (way.edge.map .via) way.path route := by
  obtain ⟨bound, rfl⟩ := List.getElem?_eq_some_iff.1 at_route
  have bound' : index < (waysOn graph call).length := onward.length_eq ▸ bound
  have looked : ((waysOn graph call).map Way.edge)[index]? = some (exit? graph call.node tag) := by
    rw [waysOn_edges tagged fits, getElem?_map, tags, required]
    rfl
  rw [getElem?_map, getElem?_eq_getElem bound'] at looked
  exact ⟨_, getElem?_eq_getElem bound', Option.some.inj looked, onward.get bound' bound⟩

theorem length_ways : ways.length = (requiredTags call.node).length := by
  have looked := congrArg List.length (waysOn_edges tagged fits)
  rwa [length_map, length_map, onward.length_eq] at looked

variable (around : Rest graph whole call.path.openLoops rest)
include around

include tags required at_route in
theorem exit_matches (other : tag ≠ .loopBody)
    (dangling : exit? graph call.node tag = none → ∀ way, (waysOn graph call)[index]? = some way →
      way.path = call.path.after call.emission) :
    Matches graph whole ways oracle (route.block ++ rest) ([], leaveBy graph call tag oracle) := by
  obtain ⟨way, at_way, edge, follows⟩ := exists_way index tagged fits onward tags required at_route
  refine leaveBy_matches (mem_of_getElem? at_route) edge follows ?_ ?_
  · intro step found
    rwa [openLoops_of_exit tagged (mem_of_getElem? at_way) found edge other]
  · exact fun none => dangling (edge ▸ none) way at_way

include tags required at_route in
theorem outcome_matches (branching : call.node.kind.isLinear = false) (other : tag ≠ .loopBody) :
    Matches graph whole ways oracle (route.block ++ rest) ([], leaveBy graph call tag oracle) := by
  refine exit_matches index tagged fits onward tags required at_route around other fun none => ?_
  exact absurd none (exit_ne_none tagged branching (tags ▸ mem_of_getElem? required))

theorem leave_branch_matches {cases : List Text} (config : call.node.config = .branch cases) :
    Matches graph whole ways oracle
      (.branch (call.emission.conditions.zip (ways.map Route.block)) (ways.map Route.block).getLast?
        :: rest) (leave graph call oracle) := by
  have tags : requiredTags call.node = (List.range cases.length).map .case ++ [.no] := by
    rw [requiredTags, config]
  have count : call.emission.conditions.length = cases.length := by
    rw [config] at fits
    exact fits.2
  have length : ways.length = cases.length + 1 := by
    rw [length_ways tagged fits onward, tags]
    simp
  have branching : call.node.kind.isLinear = false := by rw [Node.kind, config]; rfl
  obtain ⟨steps, goes⟩ := tree_branch (call.emission.conditions.zip (ways.map Route.block))
    (ways.map Route.block).getLast? oracle rest
  rw [map_fst_zip (by rw [length_map]; omega)] at goes
  have left : leave graph call oracle = ((firstTrue call.emission.conditions oracle).1 ++ [],
      leaveBy graph call ((firstTrue call.emission.conditions oracle).2.1.elim .no .case)
        (firstTrue call.emission.conditions oracle).2.2) := by
    rewrite [leave, config, append_nil]
    rcases firstTrue call.emission.conditions oracle with ⟨events, _ | index, later⟩ <;> rfl
  rw [left]
  refine Matches.after goes ?_
  cases found : (firstTrue call.emission.conditions oracle).2.1 with
  | some index =>
    have bound := lt_of_firstTrue _ _ _ found
    have required : ((range cases.length).map Tag.case ++ [.no])[index]? = some (.case index) := by
      rw [getElem?_append_left (by simpa [count] using bound), getElem?_map,
        getElem?_range (count ▸ bound)]
      rfl
    have at_route : ways[index]? = some ways[index] := getElem?_eq_getElem (by omega)
    have arm : (call.emission.conditions.zip (ways.map Route.block))[index]? =
        some (call.emission.conditions[index], ways[index].block) :=
      getElem?_zip_eq_some.2 ⟨getElem?_eq_getElem bound, by simp [at_route]⟩
    rw [chosen, arm]
    exact outcome_matches index tagged fits onward tags required at_route around branching (by simp)
  | none =>
    obtain ⟨route, at_route⟩ : ∃ route, ways[cases.length]? = some route :=
      ⟨_, getElem?_eq_getElem (by omega)⟩
    have last : (ways.map Route.block).getLast? = some route.block := by
      rw [getLast?_eq_getElem?, length_map, length, Nat.add_sub_cancel, getElem?_map, at_route]
      rfl
    rw [chosen, last]
    exact outcome_matches _ tagged fits onward tags (by simp) at_route around branching (by decide)

theorem leave_plain_matches (tags : requiredTags call.node = [.plain])
    (single : waysOn graph call =
      [⟨graph.edge? call.node.id .plain, call.path.after call.emission⟩]) :
    Matches graph whole ways oracle ((ways.map Route.block).headD [] ++ rest)
      ([], leaveBy graph call .plain oracle) := by
  obtain ⟨only, rfl⟩ := length_eq_one_iff.1
    ((length_ways tagged fits onward).trans (congrArg List.length tags))
  refine exit_matches 0 tagged fits onward tags rfl rfl around nofun fun _ way at_way => ?_
  rw [single] at at_way
  cases at_way
  rfl

theorem leave_approval_matches {message : Text} (config : call.node.config = .approval message) :
    Matches graph whole ways oracle
      (.guard (gateCondition call) ((ways.map Route.block).headD [])
        ((ways.map Route.block).getLastD []) true :: rest) (leave graph call oracle) := by
  have tags : requiredTags call.node = [.approve, .reject] := by rw [requiredTags, config]
  have branching : call.node.kind.isLinear = false := by rw [Node.kind, config]; rfl
  obtain ⟨approved, rejected, rfl⟩ := length_eq_two.1
    ((length_ways tagged fits onward).trans (congrArg List.length tags))
  have left : leave graph call oracle = ([.ask (gateCondition call) (oracle 0)] ++ [],
      leaveBy graph call (if oracle 0 then .approve else .reject) oracle.rest) := by
    rw [leave, config]
    rfl
  rw [left]
  refine Matches.after (.one rfl) ?_
  cases answer : oracle 0 with
  | true => exact outcome_matches 0 tagged fits onward tags rfl rfl around branching (by decide)
  | false => exact outcome_matches 1 tagged fits onward tags rfl rfl around branching (by decide)

theorem leave_guardrail_matches {settings : GuardrailConfig}
    (config : call.node.config = .guardrail settings) {gate : Gate}
    (gated : call.emission.gate = some gate) :
    Matches graph whole ways oracle
      (.guard gate.condition ((ways.map Route.block).headD [])
        [.ret (orWorkflow gate.fallback)] false :: rest) (leave graph call oracle) := by
  have tags : requiredTags call.node = [.plain] := by rw [requiredTags, config]
  have single : waysOn graph call =
      [⟨graph.edge? call.node.id .plain, call.path.after call.emission⟩] := by rw [waysOn, config]
  have left : leave graph call oracle = ([.ask gate.condition (oracle 0)] ++ [],
      if oracle 0 then .ended (.returned (orWorkflow gate.fallback))
      else leaveBy graph call .plain oracle.rest) := by
    rw [leave, config, gateCondition, gated]
    rfl
  rw [left]
  refine Matches.after (.one rfl) ?_
  cases answer : oracle 0 with
  | true => exact ⟨1, _, rfl, .one rfl⟩
  | false => exact leave_plain_matches tagged fits onward around tags single

theorem leave_loop_matches {condition : Text} (config : call.node.config = .loop condition)
    (inside : Rest graph whole (call.path.openLoops ++ [call.node.id])
      (.loop (call.emission.conditions.headD []) ((ways.map Route.block).headD []) ::
        ((ways.map Route.block).getLastD [] ++ rest))) :
    Matches graph whole ways oracle
      (.loop (call.emission.conditions.headD []) ((ways.map Route.block).headD []) ::
        ((ways.map Route.block).getLastD [] ++ rest)) (leave graph call oracle) := by
  have tags : requiredTags call.node = [.loopBody, .loopExit] := by rw [requiredTags, config]
  have branching : call.node.kind.isLinear = false := by rw [Node.kind, config]; rfl
  have both : waysOn graph call =
      [⟨graph.edge? call.node.id .loopBody, call.path.entering call.node.id⟩,
        ⟨graph.edge? call.node.id .loopExit, call.path⟩] := by rw [waysOn, config]
  obtain ⟨body, exit, rfl⟩ := length_eq_two.1
    ((length_ways tagged fits onward).trans (congrArg List.length tags))
  have left : leave graph call oracle =
      ([.ask (call.emission.conditions.headD []) (oracle 0)] ++ [],
        leaveBy graph call (if oracle 0 then .loopBody else .loopExit) oracle.rest) := by
    rw [leave, config]
    rfl
  rw [left]
  refine Matches.after (.one rfl) ?_
  cases answer : oracle 0 with
  | true =>
    obtain ⟨way, at_way, edge, follows⟩ := exists_way 0 tagged fits onward tags rfl rfl
    rw [both] at at_way
    cases at_way
    refine leaveBy_matches mem_cons_self edge follows (fun _ _ => inside) fun none => ?_
    exact absurd (edge ▸ none) (exit_ne_none tagged branching (by rw [tags]; exact mem_cons_self))
  | false => exact outcome_matches 1 tagged fits onward tags rfl rfl around branching (by decide)

end Leaving

/-! ## Visiting a node -/

theorem visiting_plain (plain : Plain call.emission.statements) (oracle : Oracle) :
    visiting graph call oracle = (call.emission.statements.map .run ++ (leave graph call oracle).1,
      (leave graph call oracle).2) := by
  rw [visiting, perform_plain plain]

theorem plain_matches {tail : Block} (plain : Plain call.emission.statements)
    (matched : Matches graph whole ways oracle tail (leave graph call oracle)) :
    Matches graph whole ways oracle (call.emission.statements ++ tail)
      (visiting graph call oracle) := by
  rw [visiting_plain plain]
  exact Matches.after (tree_plain plain oracle tail) matched

/-- **A visit of the graph machine is matched by the statements of the visit.** -/
theorem visit_matches (tagged : Tagged graph call.node)
    (follows : Follows graph (some arrival) call.path (.visit arrival call ways))
    (part : (Route.visit arrival call ways).visits ⊆ whole.visits)
    (around : Rest graph whole call.path.openLoops rest) (oracle : Oracle) :
    Matches graph whole ways oracle ((Route.visit arrival call ways).block ++ rest)
      (visiting graph call oracle) := by
  obtain ⟨_, _, _, fits, onward⟩ := follows.of_visit
  rw [Route.block_visit, Call.assemble, append_assoc]
  have fits' := fits
  cases config : call.node.config with
  | finish ending =>
    rw [config] at fits'
    obtain ⟨before, value, emitted, plain⟩ := fits'
    rw [visiting, emitted, perform_plain_append plain, append_assoc]
    exact ⟨_, value, rfl, (tree_plain plain oracle _).ends (.one rfl)⟩
  | branch cases =>
    rw [config] at fits'
    exact plain_matches fits'.1 (leave_branch_matches tagged fits onward around config)
  | loop condition =>
    rw [config] at fits'
    obtain ⟨none, _⟩ := fits'
    have plain : Plain call.emission.statements := by rw [none]; exact plain_nil
    refine plain_matches plain (leave_loop_matches tagged fits onward around config ?_)
    have inside := Rest.inside around (by rw [Node.kind, config]; rfl) follows part
    rw [Route.block_visit, Call.assemble, config, none] at inside
    exact inside
  | approval message =>
    rw [config] at fits'
    obtain ⟨plain, gate, gated, approves⟩ := fits'
    have condition : gateCondition call = gate.condition := by rw [gateCondition, gated]; rfl
    have matched : Matches graph whole ways oracle _ _ :=
      leave_approval_matches tagged fits onward around config
    rw [condition] at matched
    rw [gated]
    simp only [approves]
    exact plain_matches plain matched
  | guardrail settings =>
    rw [config] at fits'
    obtain ⟨plain, gate, gated, trips⟩ := fits'
    rw [gated]
    simp only [trips]
    exact plain_matches plain (leave_guardrail_matches tagged fits onward around config gated)
  | _ =>
    rw [config] at fits'
    obtain ⟨plain, gated⟩ := fits'
    rw [gated]
    refine plain_matches plain ?_
    rw [leave, config]
    exact leave_plain_matches tagged fits onward around (by rw [requiredTags, config])
      (by rw [waysOn, config])

theorem visiting_loop_ne_nil (loop : call.node.kind = .loop)
    (fits : call.emission.Fits call.node.config) (oracle : Oracle) :
    (visiting graph call oracle).1 ≠ [] := by
  cases config : call.node.config with
  | loop condition =>
    rw [config] at fits
    have plain : Plain call.emission.statements := by rw [fits.1]; exact plain_nil
    rw [visiting_plain plain, leave, config]
    simp
  | _ => simp [Node.kind, config, Config.kind] at loop

/-! ## What is emitted at an arrival -/

/-- No two visits are the same visit of a node, or the same arrival at an end. -/
def Distinct (whole : Route) : Prop :=
  ∀ first ∈ whole.visits, ∀ second ∈ whole.visits, first.2.node.id = second.2.node.id →
    (first.2.node.kind = .finish → second.2.node.kind = .finish → first.1.edge? = second.1.edge?) →
      first.2 = second.2

/-- What is emitted where a visit arrives, or comes back to. -/
theorem callAt_eq (distinct : Distinct whole) {other : Arrival}
    (member : (other, call) ∈ whole.visits) (same : call.node.id = arrival.id)
    (ends : call.node.kind = .finish → other.edge? = arrival.edge?) :
    callAt whole arrival = some call := by
  have called : (callAt whole arrival).isSome = true := by
    rw [callAt, Option.isSome_map, find?_isSome]
    exact ⟨(other, call), member, decide_eq_true ⟨same, ends⟩⟩
  obtain ⟨seen, found⟩ := Option.isSome_iff_exists.1 called
  rw [found]
  rw [callAt] at found
  obtain ⟨visit, first, rfl⟩ := Option.map_eq_some_iff.1 found
  have matching := find?_some first
  simp only [decide_eq_true_eq] at matching
  refine congrArg some (distinct visit (mem_of_find?_eq_some first) _ member
    (matching.1.trans same.symm) fun finish finish' => ?_)
  exact (matching.2 finish).trans (ends finish').symm

/-! ## Related points -/

/-- A visit brings both machines to the same ending or to a related point.  Where it is nothing to
the tree machine, the way on has to do so. -/
theorem meet_of_visit (checked : Checked graph) (distinct : Distinct whole) {here : Arrival}
    (follows : Follows graph (some arrival) call.path (.visit arrival call ways))
    (part : (Route.visit arrival call ways).visits ⊆ whole.visits)
    (around : Rest graph whole call.path.openLoops rest) (same : call.node.id = here.id)
    (ends : call.node.kind = .finish → arrival.edge? = here.edge?)
    (silent : (visiting graph call oracle).1 = [] → ∀ route ∈ ways, ∀ next path rest oracle',
      Follows graph (some next) path route → Rest graph whole path.openLoops rest →
        Meet (walking graph whole) tree (Related graph whole) oracle' next (route.block ++ rest)) :
    Meet (walking graph whole) tree (Related graph whole) oracle here
      ((Route.visit arrival call ways).block ++ rest) := by
  obtain ⟨_, _, known, _⟩ := follows.of_visit
  have tagged := checked.tagged _ (Graph.node?_eq_some_iff.1 known).1
  have matched := visit_matches tagged follows part around oracle
  rw [Route.visits_visit] at part
  have step : walking graph whole oracle here = visiting graph call oracle := by
    rw [walking, callAt_eq distinct (part mem_cons_self) same ends]
  rcases visited : visiting graph call oracle with ⟨events, next⟩
  rw [visited] at step matched silent
  cases next with
  | ended ending =>
    obtain ⟨others, value, rfl, ends⟩ := matched
    exact .inl ⟨1, others, events, value, .one step, ends⟩
  | onward next oracle' =>
    obtain ⟨others, route, path, rest, goes, member, follows, around⟩ := matched
    cases others with
    | zero =>
      exact .after (.one step) goes
        (silent goes.eq_nil_of_zero route member next path rest oracle' follows around)
    | succ others =>
      refine .inr ⟨0, others, events, oracle', next, route.block ++ rest, .one step, goes,
        path, route, rest, follows, fun visit inside => ?_, around, rfl⟩
      exact part (mem_cons_of_mem _ (mem_flatMap.2 ⟨route, member, inside⟩))

/-- **From a related point, both machines come to the same ending or to a related point again.**  A
visit may be nothing to the tree machine; but then the statements before it belong to a smaller
route, and a way back to a loop evaluates the condition of the loop. -/
theorem related_meet (checked : Checked graph) (distinct : Distinct whole) (route : Route) :
    ∀ (arrival : Arrival) (path : Path) (rest : Block) (oracle : Oracle),
      Follows graph (some arrival) path route → route.visits ⊆ whole.visits →
      Rest graph whole path.openLoops rest →
        Meet (walking graph whole) tree (Related graph whole) oracle arrival
          (route.block ++ rest) := by
  induction route using Route.induction with
  | stop path =>
    intro arrival path rest oracle follows
    cases follows
  | back arrival =>
    intro _ path rest oracle follows _ around
    cases follows with
    | back innermost =>
      rw [Route.block, nil_append]
      generalize path.openLoops = opened at innermost around
      cases around with
      | outside => cases innermost
      | @inside other call ways rest around loop follows part =>
        have same : call.node.id = arrival.id := by simpa using innermost
        obtain ⟨_, _, _, fits, _⟩ := follows.of_visit
        refine meet_of_visit checked distinct follows part around same (fun finish => ?_) ?_
        · rw [loop] at finish
          cases finish
        · exact fun none => absurd none (visiting_loop_ne_nil loop fits oracle)
  | visit other call ways ih =>
    intro arrival path rest oracle follows part around
    obtain ⟨rfl, rfl, known, _⟩ := follows.of_visit
    refine meet_of_visit checked distinct follows part around (Graph.node?_eq_some_iff.1 known).2
      (fun _ => rfl) ?_
    intro _ route member next path rest oracle' onward around
    refine ih route member next path rest oracle' onward (fun visit inside => part ?_) around
    exact Route.visits_visit _ _ _ ▸ mem_cons_of_mem _ (mem_flatMap.2 ⟨route, member, inside⟩)

end AgentFlow.Run
