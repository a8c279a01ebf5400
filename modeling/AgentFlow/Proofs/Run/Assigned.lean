import AgentFlow.Proofs.Emit.Assigning
import AgentFlow.Proofs.Linear.Coverage

/-!
# Names are assigned before they are read

The names that a node takes from its path are assigned by other nodes.  The statements of a body are
marked with the names that they may take, and control moves through them in every way that
conditions and attempts allow.  Wherever it comes to, the names of the mark have been assigned.
-/

namespace AgentFlow.Run

open List Workflow Emit Linear

/-! ## Marked statements -/

/-- A statement of a body, marked with the names that it reads from its path. -/
inductive Marked where
  | plain (reads : List Text) (statement : Statement)
  | branch (reads : List Text) (arms : List (Text × List Marked)) (orelse : Option (List Marked))
  | loop (reads : List Text) (condition : Text) (body : List Marked)
  | guard (reads : List Text) (condition : Text) (continuation fallback : List Marked)
      (continueWhen : Bool)
  | ret (value : Text)

namespace Marked

def reads : Marked → List Text
  | plain reads _ => reads
  | branch reads _ _ => reads
  | loop reads _ _ => reads
  | guard reads _ _ _ _ => reads
  | ret value => [value]

mutual

def erase : Marked → Statement
  | plain _ statement => statement
  | branch _ arms orelse => .branch (eraseArms arms) (eraseOther orelse)
  | loop _ condition body => .loop condition (eraseAll body)
  | guard _ condition continuation fallback continueWhen =>
    .guard condition (eraseAll continuation) (eraseAll fallback) continueWhen
  | ret value => .ret value

def eraseAll : List Marked → Block
  | [] => []
  | statement :: rest => statement.erase :: eraseAll rest

def eraseArms : List (Text × List Marked) → List (Text × Block)
  | [] => []
  | (condition, body) :: rest => (condition, eraseAll body) :: eraseArms rest

/-- What is written for the case that no condition holds, without its marks. -/
def eraseOther : Option (List Marked) → Option Block
  | none => none
  | some body => some (eraseAll body)

end

/-- Marks a statement that a node has emitted. -/
def mark (reads : List Text) : Statement → Marked
  | .ret value => .ret value
  | statement => .plain reads statement

theorem mark_of_isPlain {reads : List Text} {statement : Statement} (plain : statement.isPlain) :
    mark reads statement = .plain reads statement := by
  cases statement with
  | ret value => cases plain
  | _ => rfl

theorem erase_mark (reads : List Text) (statement : Statement) :
    (mark reads statement).erase = statement := by
  cases statement with
  | _ => rfl

theorem eraseAll_eq (block : List Marked) : eraseAll block = block.map erase := by
  induction block with
  | nil => rfl
  | cons statement rest ih => rw [eraseAll, ih, map_cons]

theorem eraseAll_append (first second : List Marked) :
    eraseAll (first ++ second) = eraseAll first ++ eraseAll second := by
  simp only [eraseAll_eq, map_append]

theorem eraseArms_eq (arms : List (Text × List Marked)) :
    eraseArms arms = arms.map fun arm => (arm.1, eraseAll arm.2) := by
  induction arms with
  | nil => rfl
  | cons arm rest ih => rw [eraseArms, ih, map_cons]

theorem eraseOther_eq (orelse : Option (List Marked)) :
    eraseOther orelse = orelse.map eraseAll := by
  cases orelse with
  | none => rfl
  | some body => rfl

end Marked

/-- The marked statements after those of the node itself. -/
def onward (call : Call) (ways : List (List Marked)) : List Marked :=
  let reads := call.path.names
  match call.node.config with
  | .finish _ => []
  | .branch _ => [.branch reads (call.emission.conditions.zip ways) ways.getLast?]
  | .loop _ => .loop reads (call.emission.conditions.headD []) (ways.headD []) :: ways.getLastD []
  | config =>
    match call.emission.gate with
    | none => ways.headD []
    | some gate =>
      let fallback : List Marked := match config with
        | .approval _ => ways.getLastD []
        | _ => [.ret (orWorkflow gate.fallback)]
      [.guard reads gate.condition (ways.headD []) fallback gate.continueWhen]

mutual

/-- The marked statements of a route: what a node emits may read the names of its path. -/
def marked : Route → List Marked
  | .stop path => [.ret path.current]
  | .back _ => []
  | .visit _ call ways =>
    call.emission.statements.map (Marked.mark call.path.names) ++ onward call (markedWays ways)

def markedWays : List Route → List (List Marked)
  | [] => []
  | way :: rest => marked way :: markedWays rest

end

theorem markedWays_eq (ways : List Route) : markedWays ways = ways.map marked := by
  induction ways with
  | nil => rfl
  | cons way rest ih => rw [markedWays, ih, map_cons]

theorem erase_visit (call : Call) (ways : List (List Marked)) :
    Marked.eraseAll (call.emission.statements.map (Marked.mark call.path.names) ++
      onward call ways) = call.assemble (ways.map Marked.eraseAll) := by
  have own : (call.emission.statements.map (Marked.mark call.path.names)).map Marked.erase =
      call.emission.statements := by
    simp [Function.comp_def, Marked.erase_mark]
  have first : (ways.map Marked.eraseAll).headD [] = Marked.eraseAll (ways.headD []) := by
    cases ways with
    | nil => rfl
    | cons way rest => rfl
  have last : (ways.map Marked.eraseAll).getLastD [] = Marked.eraseAll (ways.getLastD []) := by
    rw [getLastD_eq_getLast?, getLastD_eq_getLast?, getLast?_map]
    cases ways.getLast? with
    | none => rfl
    | some way => rfl
  rw [Marked.eraseAll_append, Marked.eraseAll_eq, own, Call.assemble, onward]
  congr 1
  cases call.node.config with
  | finish ending => rfl
  | branch cases =>
    simp only [Marked.eraseAll, Marked.erase, Marked.eraseArms_eq, Marked.eraseOther_eq,
      zip_map_right, getLast?_map]
    rfl
  | loop condition =>
    simp only [Marked.eraseAll, Marked.erase, first, last]
  | approval message =>
    cases call.emission.gate with
    | none => exact first.symm
    | some gate => simp only [Marked.eraseAll, Marked.erase, first, last]
  | _ =>
    cases call.emission.gate with
    | none => exact first.symm
    | some gate => simp only [Marked.eraseAll, Marked.erase, first]

theorem erase_marked (route : Route) : Marked.eraseAll (marked route) = route.block := by
  induction route using Route.induction with
  | stop path => rfl
  | back arrival => rfl
  | visit arrival call ways ih =>
    rw [marked, markedWays_eq, erase_visit, Route.block_visit, map_map]
    exact congrArg call.assemble (map_congr_left ih)

/-! ## Control flow -/

/-- What is executed when a statement is: an attempt comes to the end of its body, or its body
breaks off and the handler is executed. -/
inductive Executes : Statement → List Statement → Prop
  | whole {statement} (single : ∀ body name handler,
      statement ≠ .attempt body name handler) : Executes statement [statement]
  | completes (body : List Statement) (name : Text) (handler : List Statement) :
      Executes (.attempt body name handler) body
  | breaks (body : List Statement) (name : Text) (handler : List Statement) (count : Nat) :
      Executes (.attempt body name handler) (body.take count ++ handler)

/-- What a statement settles is assigned by something that is executed, however it goes. -/
theorem Executes.assigned {statement : Statement} {executed : List Statement} {name : Text}
    (executes : Executes statement executed) (settles : statement.settles name) :
    ∃ statement ∈ executed, statement.assigns name := by
  cases executes with
  | whole single =>
    refine ⟨statement, mem_singleton_self _, ?_⟩
    cases statement with
    | attempt body name handler => exact absurd rfl (single body name handler)
    | _ => exact settles
  | completes name handler =>
    exact any_eq_true.1 (Bool.and_eq_true_iff.1 settles).1
  | breaks body name handler count =>
    obtain ⟨found, member, assigned⟩ := any_eq_true.1 (Bool.and_eq_true_iff.1 settles).2
    exact ⟨found, mem_append_right _ member, assigned⟩

/-- One move of control: from what is to be done, executing statements, to what is left to do.
Conditions may have any value, and a return ends the run. -/
inductive Moves : List Marked → List Statement → List Marked → Prop
  | plain {reads statement executed rest} (executes : Executes statement executed) :
      Moves (.plain reads statement :: rest) executed rest
  | arm {reads arms orelse rest} {arm : Text × List Marked} (member : arm ∈ arms) :
      Moves (.branch reads arms orelse :: rest) [] (arm.2 ++ rest)
  | orelse {reads arms} {orelse : Option (List Marked)} {rest} :
      Moves (.branch reads arms orelse :: rest) [] (orelse.getD [] ++ rest)
  | again {reads condition body rest} :
      Moves (.loop reads condition body :: rest) [] (body ++ .loop reads condition body :: rest)
  | exit {reads condition body rest} : Moves (.loop reads condition body :: rest) [] rest
  | continuation {reads condition continuation fallback rest continueWhen} :
      Moves (.guard reads condition continuation fallback continueWhen :: rest) []
        (continuation ++ rest)
  | fallback {reads condition continuation fallback rest continueWhen} :
      Moves (.guard reads condition continuation fallback continueWhen :: rest) []
        (fallback ++ rest)

/-- Control comes from the start of a body to a point, after it has executed some statements. -/
inductive Comes (start : List Marked) : List Statement → List Marked → Prop
  | start : Comes start [] start
  | move {executed more here there}
      (before : Comes start executed here) (moves : Moves here more there) :
      Comes start (executed ++ more) there

/-! ## Readiness -/

/-- Everything that statements read is known where they read it, given what is known before.
Nothing is known after a branch, a loop or a guard that was not known before. -/
inductive Ready : (Text → Prop) → List Marked → Prop
  | done {known : Text → Prop} : Ready known []
  | plain {known : Text → Prop} {reads} {statement : Statement} {rest}
      (read : ∀ name ∈ reads, known name)
      (later : Ready (fun name => known name ∨ statement.settles name) rest) :
      Ready known (.plain reads statement :: rest)
  | branch {known : Text → Prop} {reads arms} {orelse : Option (List Marked)} {rest}
      (read : ∀ name ∈ reads, known name)
      (inside : ∀ arm ∈ arms, Ready known arm.2) (otherwise : Ready known (orelse.getD []))
      (later : Ready known rest) : Ready known (.branch reads arms orelse :: rest)
  | loop {known : Text → Prop} {reads condition body rest}
      (read : ∀ name ∈ reads, known name) (inside : Ready known body) (later : Ready known rest) :
      Ready known (.loop reads condition body :: rest)
  | guard {known : Text → Prop} {reads condition continuation fallback rest continueWhen}
      (read : ∀ name ∈ reads, known name) (inside : Ready known continuation)
      (otherwise : Ready known fallback) (later : Ready known rest) :
      Ready known (.guard reads condition continuation fallback continueWhen :: rest)
  | ret {known : Text → Prop} {value rest} (read : known value) : Ready known (.ret value :: rest)

namespace Ready

variable {known more : Text → Prop} {block rest : List Marked}

theorem mono (ready : Ready known block) (included : ∀ name, known name → more name) :
    Ready more block := by
  induction ready generalizing more with
  | done => exact .done
  | plain read later ih =>
    exact .plain (fun name member => included name (read name member))
      (ih fun name => Or.imp_left (included name))
  | branch read inside otherwise later ihInside ihOtherwise ihLater =>
    exact .branch (fun name member => included name (read name member))
      (fun arm member => ihInside arm member included) (ihOtherwise included) (ihLater included)
  | loop read inside later ihInside ihLater =>
    exact .loop (fun name member => included name (read name member)) (ihInside included)
      (ihLater included)
  | guard read inside otherwise later ihInside ihOtherwise ihLater =>
    exact .guard (fun name member => included name (read name member)) (ihInside included)
      (ihOtherwise included) (ihLater included)
  | ret read => exact .ret (included _ read)

theorem append (ready : Ready known block) (after : Ready known rest) :
    Ready known (block ++ rest) := by
  induction ready with
  | done => exact after
  | plain read later ih => exact .plain read (ih (after.mono fun name => .inl))
  | branch read inside otherwise later _ _ ih => exact .branch read inside otherwise (ih after)
  | loop read inside later _ ih => exact .loop read inside (ih after)
  | guard read inside otherwise later _ _ ih => exact .guard read inside otherwise (ih after)
  | ret read => exact .ret read

/-- What is read at a point is known there. -/
theorem known_of_reads {point : Marked} (ready : Ready known (point :: rest)) :
    ∀ name ∈ point.reads, known name := by
  cases ready with
  | plain read later => exact read
  | branch read inside otherwise later => exact read
  | loop read inside later => exact read
  | guard read inside otherwise later => exact read
  | ret read => exact forall_mem_singleton.2 read

/-- One move of control keeps what is left to do ready. -/
theorem moves {here there : List Marked} {executed : List Statement} (ready : Ready known here)
    (moves : Moves here executed there) :
    Ready (fun name => known name ∨ ∃ statement ∈ executed, statement.assigns name) there := by
  cases moves with
  | plain executes =>
    cases ready with
    | plain read later => exact later.mono fun name => Or.imp_right executes.assigned
  | arm member =>
    cases ready with
    | branch read inside otherwise later =>
      exact ((inside _ member).append later).mono fun name => .inl
  | orelse =>
    cases ready with
    | branch read inside otherwise later => exact (otherwise.append later).mono fun name => .inl
  | again =>
    -- Nothing of what a round assigns is relied on in the next one.
    have ready' := ready
    cases ready with
    | loop read inside later => exact (inside.append ready').mono fun name => .inl
  | exit =>
    cases ready with
    | loop read inside later => exact later.mono fun name => .inl
  | continuation =>
    cases ready with
    | guard read inside otherwise later => exact (inside.append later).mono fun name => .inl
  | fallback =>
    cases ready with
    | guard read inside otherwise later => exact (otherwise.append later).mono fun name => .inl

/-- Wherever control comes to from the start of a ready body, what is left to do is ready. -/
theorem comes {start here : List Marked} {executed : List Statement} (ready : Ready known start)
    (comes : Comes start executed here) :
    Ready (fun name => known name ∨ ∃ statement ∈ executed, statement.assigns name) here := by
  induction comes with
  | start => exact ready.mono fun name => .inl
  | move before moved ih =>
    refine (ih.moves moved).mono fun name found => ?_
    simp only [mem_append, or_and_right, exists_or]
    exact or_assoc.1 found

theorem plain_append {reads : List Text} {statements : List Statement} {tail : List Marked}
    (plain : Plain statements) (read : ∀ name ∈ reads, known name)
    (later : Ready (fun name => known name ∨ Block.settles name statements) tail) :
    Ready known (statements.map (Marked.mark reads) ++ tail) := by
  induction statements generalizing known with
  | nil => exact later.mono fun name => by simp [Block.settles]
  | cons statement rest ih =>
    obtain ⟨isPlain, plain⟩ := plain_cons.1 plain
    rw [map_cons, cons_append, Marked.mark_of_isPlain isPlain]
    refine .plain read (ih plain (fun name member => .inl (read name member)) ?_)
    exact later.mono fun name => by simp [Block.settles, or_assoc]

end Ready

/-! ## Routes are ready -/

variable {graph : Graph} {call : Call} {known : Text → Prop}

theorem known_orWorkflow {option : Option Text} (workflow : known Expr.workflowRoot)
    (handed : ∀ name ∈ option, known name) : known (orWorkflow option) := by
  unfold orWorkflow
  split
  · exact handed _ rfl
  · exact workflow

section Known

variable (workflow : known Expr.workflowRoot) (here : ∀ name ∈ call.path.names, known name)
  (handed : ∀ name ∈ call.emission.handedOn, known name)
include workflow here handed

/-- What a path offers after a node is what it offered before, or what the node hands on. -/
theorem known_after :
    ∀ name ∈ (call.path.after call.emission).names, known name := by
  refine forall_mem_cons.2 ⟨?_, fun name text => ?_⟩
  · cases result : call.emission.result with
    | none =>
      have same : (call.path.after call.emission).current = call.path.current := by
        rw [Path.current, Path.after, result]
        rfl
      rw [same]
      exact here _ mem_cons_self
    | some name =>
      have own : (call.path.after call.emission).current = orWorkflow (some name) := by
        rw [Path.current, Path.after, result]
        rfl
      rw [own]
      refine known_orWorkflow workflow fun other is => handed other ?_
      simp [Emission.handedOn, result, Option.mem_some.1 is]
  · refine handed name ?_
    simp only [Emission.handedOn, mem_append]
    exact .inl (.inr text)

theorem known_on_ways :
    ∀ way ∈ waysOn graph call, ∀ name ∈ way.path.names, known name := by
  intro way member
  cases isWay_of_mem member with
  | case | past | body => exact here
  | after => exact known_after workflow here handed
  | rejected edge =>
    unfold rejectedPath
    split
    · exact forall_mem_singleton.2 workflow
    · exact here

theorem ready_onward {ways : List (List Marked)} (each : ∀ way ∈ ways, Ready known way) :
    Ready known (onward call ways) := by
  obtain ⟨first, last⟩ := ends_of_all .done each
  unfold onward
  dsimp only
  split
  · exact .done
  · rw [getLastD_eq_getLast?] at last
    exact .branch here (fun arm member => each _ (of_mem_zip member).2) last .done
  · exact .loop here first last
  · split
    · exact first
    · rename_i gate gated
      refine .guard here first ?_ .done
      split
      · exact last
      · refine .ret (known_orWorkflow workflow fun name is => handed name ?_)
        simp [Emission.handedOn, gated, Option.mem_def.1 is]

end Known

/-- The statements of a route are ready where the names of its path are known. -/
theorem ready_marked {arrival : Option Arrival} {path : Path} {route : Route}
    (follows : Follows graph arrival path route)
    (settled : ∀ call ∈ route.calls, call.emission.Settles call.path call.node.config)
    (workflow : known Expr.workflowRoot) (here : ∀ name ∈ path.names, known name) :
    Ready known (marked route) := by
  induction follows generalizing known with
  | stop path => exact .ret (here _ mem_cons_self)
  | back arrival path innermost => exact .done
  | visit arrival call ways isNode away fits onward ih =>
    rw [Route.calls_visit] at settled
    obtain ⟨own, others⟩ := forall_mem_cons.1 settled
    rw [marked, markedWays_eq]
    by_cases finish : ∃ config, call.node.config = .finish config
    · obtain ⟨config, finish⟩ := finish
      rw [finish] at fits own
      obtain ⟨before, value, statements, plain⟩ := fits
      rw [statements, map_append, append_assoc]
      refine .plain_append plain here (.ret ?_)
      rcases own before value statements with same | settles
      · exact .inl (same ▸ here _ mem_cons_self)
      · exact .inr settles
    · have other : ∀ ending, call.node.config ≠ .finish ending := not_exists.1 finish
      -- After the node's own statements, the names that it hands on are known as well.
      have rest (later : Text → Prop) (before : ∀ name, known name → later name)
          (settled : ∀ name, Block.settles name call.emission.statements → later name) :
          Ready later (Run.onward call (ways.map marked)) := by
        have workflow' := before _ workflow
        have here' : ∀ name ∈ call.path.names, later name := fun name member =>
          before name (here name member)
        have handed : ∀ name ∈ call.emission.handedOn, later name := fun name member =>
          settled name (own.handed other name member)
        refine ready_onward workflow' here' handed fun block member => ?_
        obtain ⟨route, among, rfl⟩ := mem_map.1 member
        obtain ⟨way, listed, _, ready⟩ := exists_of_mem_right ih among
        refine ready (fun call called => others call ?_) workflow'
          (known_on_ways workflow' here' handed way listed)
        exact mem_flatMap.2 ⟨route, among, called⟩
      exact .plain_append (fits.plain other) here (rest _ (fun name => .inl) (fun name => .inr))

/-- **Names are assigned before they are read.**  A node takes nothing from its path but the names
that the path offers.  Where the walk through a graph returns statements, mark what each node
emitted with those names.  Then wherever control comes to in the statements, every name that is read
there, by the code of a node, by a condition or by a return, is the input record or has been
assigned by a statement executed before. -/
theorem names_assigned {context : Context} {draft last : Draft} {block : Block}
    (walked : body context draft = (.ok block, last)) :
    (∀ node path other, path.names = other.names →
      emission context node path = emission context node other) ∧
    ∃ route, survey context.graph (notingEmitter context) draft = (.ok route, last) ∧
      Marked.eraseAll (marked route) = block ∧
      ∀ executed point rest, Comes (marked route) executed (point :: rest) →
        ∀ name ∈ point.reads,
          name = Expr.workflowRoot ∨ ∃ statement ∈ executed, statement.assigns name := by
  obtain ⟨route, surveyed, same⟩ := linearize_eq_ok.1 walked
  obtain ⟨follows, _⟩ := survey_leaves (notingEmitter_fits context) surveyed
  refine ⟨fun node path other same => emission_eq_of_names same context node, route, surveyed,
    (erase_marked route).trans same, fun executed point rest comes => ?_⟩
  have ready : Ready (· = Expr.workflowRoot) (marked route) :=
    ready_marked follows (survey_calls (emission_settles context) surveyed) rfl
      (forall_mem_singleton.2 rfl)
  exact (ready.comes comes).known_of_reads

/-! ## A guardrail that may break -/

/-- A guardrail before the end, which goes on when its checks break. -/
def screened : Workflow where
  entryId := "s"
  inputSchema := [("properties", .obj [("input_as_text", .obj [])])]
  nodes := [{ id := "s", config := .start },
    { id := "g", config := .guardrail { continueOnError := true } },
    { id := "e", config := .finish {} }]
  edges := [{ source := "s", target := "g" }, { source := "g", target := "e" }]

def screenedContext : Context where
  graph := ⟨screened, by decide⟩
  settings := {}
  tools := []

/-- Where the output of the guardrail is returned, it has been assigned. -/
theorem screened_assigned :
    ∃ block last route, body screenedContext {} = (.ok block, last) ∧
      Marked.eraseAll (marked route) = block ∧
      ∀ executed rest, Comes (marked route) executed (.ret "guardrails_output" :: rest) →
        ∃ statement ∈ executed, statement.assigns "guardrails_output" := by
  obtain ⟨block, last, walked⟩ : ∃ block last, body screenedContext {} = (.ok block, last) :=
    Stoppable.exists_ok (by decide +kernel)
  obtain ⟨_, route, _, same, assigned⟩ := names_assigned walked
  refine ⟨block, last, route, walked, same, fun executed rest comes => ?_⟩
  exact (assigned _ _ _ comes _ (mem_singleton_self _)).resolve_left (by decide)

end AgentFlow.Run
