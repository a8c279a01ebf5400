import AgentFlow.Proofs.Emit.Fitting
import AgentFlow.Proofs.Symbol.Numbered

/-!
# What nodes emit assigns what they hand on

A node hands names on to the rest of its path: its result, the text that a guardrail has checked,
and what a closed gate returns.  The statements of the node assign each of them, also where the body
of an attempt fails before it has assigned anything.
-/

namespace AgentFlow

open List

/-! ## Assignments -/

def Text.assigns (name line : Text) : Bool := line.startsWith (name ++ " = ")

/-- Whether a statement is code with a line that assigns a name. -/
def Statement.assigns (name : Text) : Statement → Bool
  | .raw lines => lines.any name.assigns
  | _ => false

/-- Whether a statement has assigned a name when it is done, however it went: an attempt has to
assign it in its body and in its handler. -/
def Statement.settles (name : Text) : Statement → Bool
  | .attempt body _ handler => body.any (assigns name) && handler.any (assigns name)
  | statement => statement.assigns name

/-- Whether statements have assigned a name when they are done. -/
def Block.settles (name : Text) (block : Block) : Bool := block.any (Statement.settles name)

namespace Text

theorem startsWith_append (head tail : Text) : (head ++ tail).startsWith head :=
  isPrefixOf_iff_prefix.2 (prefix_append head tail)

theorem assigns_append (name : Text) {tail : Text} (equals : tail.startsWith " = ") :
    name.assigns (name ++ tail) := by
  have starts : (" = " : Text) <+: tail := isPrefixOf_iff_prefix.1 equals
  exact isPrefixOf_iff_prefix.2 ((prefix_append_right_inj name).2 starts)

theorem any_assigns_assignmentLines {name : Text} (one : name.OneLine) (source : Text) :
    (assignmentLines name source).any name.assigns := by
  have absent : OneLine (name ++ " = ") := one.append (by decide)
  obtain ⟨piece, pieces, -, lines⟩ := splitOn_append source absent
  unfold assignmentLines Text.lines
  rw [lines, any_cons, append_assoc, assigns_append name rfl, Bool.true_or]

end Text

namespace Emit

open Workflow Stoppable

def Emission.handedOn (emission : Emission) : List Text :=
  emission.result.toList ++ emission.checkedText.toList ++
    (emission.gate.bind Gate.fallback).toList

/-- What a node with a given configuration has assigned when its statements are done: the names that
it hands on, and the name that an end returns, unless that comes with the path. -/
def Emission.Settles (emission : Emission) (path : Path) : Config → Prop
  | .finish _ => ∀ before value, emission.statements = before ++ [.ret value] →
    value = path.current ∨ Block.settles value before
  | _ => ∀ name ∈ emission.handedOn, Block.settles name emission.statements

theorem Emission.Settles.handed {emission : Emission} {path : Path} {config : Config}
    (settles : emission.Settles path config) (other : ∀ ending, config ≠ .finish ending) :
    ∀ name ∈ emission.handedOn, Block.settles name emission.statements := by
  cases config with
  | finish ending => exact absurd rfl (other ending)
  | _ => exact settles

/-- The names that a path offers to a node: that of the last result, and that of the text checked by
the guardrail before. -/
def Path.names (path : Path) : List Text := path.current :: path.guardrailText.toList

variable {context : Context} {path : Path} {id : Text}

/-! ## Nodes that hand nothing on -/

theorem settles_nothing {emission : Emission} (nothing : emission.handedOn = []) :
    ∀ name ∈ emission.handedOn, Block.settles name emission.statements := by
  rw [nothing]
  exact fun name none => by cases none

theorem emitStart_settles : Returns (emitStart context) (Emission.Settles · path .start) :=
  .then_ fun _ => .then_ fun _ => .pure (settles_nothing rfl)

theorem emitBranch_settles (cases : List Text) :
    Returns (emitBranch context path id cases) (Emission.Settles · path (.branch cases)) :=
  .then_ fun _ => .pure (settles_nothing rfl)

theorem emitLoop_settles (condition : Text) :
    Returns (emitLoop context path id condition) (Emission.Settles · path (.loop condition)) :=
  .then_ fun _ => .pure (settles_nothing rfl)

theorem emitApproval_settles (message : Text) :
    Returns (emitApproval context id message) (Emission.Settles · path (.approval message)) :=
  .then_ fun _ => .then_ fun _ => .pure (settles_nothing rfl)

theorem emitSetState_settles (assignments : List Assignment) :
    Returns (emitSetState context path id assignments)
      (Emission.Settles · path (.setState assignments)) :=
  .then_ fun _ => .pure (settles_nothing rfl)

theorem emitServer_settles (config : ServerConfig) :
    Returns (emitServer context config) (Emission.Settles · path (.mcpTool config)) :=
  .then_ fun _ => .then_ fun _ => .then_ fun _ => .then_ fun _ => .pure (settles_nothing rfl)

/-! ## Nodes with a result -/

theorem settles_raw {name : Text} {lines : List Text} (assigned : lines.any name.assigns) :
    Block.settles name [.raw lines] := by
  rw [Block.settles, any_cons, Statement.settles, Statement.assigns, assigned, Bool.true_or]
  nofun

/-- A node whose code assigns its result, which is all that it hands on. -/
theorem settles_result {emission : Emission} {result : Text} {lines : List Text}
    (hands : emission.handedOn = [result]) (code : emission.statements = [.raw lines])
    (assigned : lines.any result.assigns) :
    ∀ name ∈ emission.handedOn, Block.settles name emission.statements := by
  intro name handed
  rw [hands, mem_singleton] at handed
  rw [handed, code]
  exact settles_raw assigned

theorem any_assigns_first (name : Text) {tail : Text} {more : List Text}
    (equals : tail.startsWith " = ") : ((name ++ tail) :: more).any name.assigns := by
  rw [any_cons, Text.assigns_append name equals, Bool.true_or]

theorem emitTransform_settles (source : Text) :
    Returns (emitTransform context path id source)
      (Emission.Settles · path (.transform source)) := by
  have assigned (result value : Text) : [result ++ " = " ++ value].any result.assigns := by
    rw [append_assoc]
    exact any_assigns_first result rfl
  unfold emitTransform
  dsimp only
  split <;> exact .then_ fun value => .then_ fun result =>
    .pure (settles_result rfl rfl (assigned result value))

theorem emitFunctionTool_settles (call : FunctionCall) :
    Returns (emitFunctionTool context path id call)
      (Emission.Settles · path (.functionTool call)) := by
  refine .then_ fun _ => .then_ fun _ => .then_ fun result => .then_ fun _ => .then_ fun _ =>
    .pure (settles_result rfl rfl ?_)
  simp only [append_assoc]
  exact any_assigns_first result rfl

theorem emitFileSearch_settles (search : FileSearch) :
    Returns (emitFileSearch context search) (Emission.Settles · path (.fileSearch search)) :=
  .then_ fun result => .pure (settles_result rfl rfl (any_assigns_first result rfl))

theorem any_assigns_runLines {config : AgentConfig} {agent temporary result : Text}
    {structured : Bool} {lines : List Text} (one : result.OneLine)
    (done : runLines context config agent temporary result structured = .ok lines) :
    lines.any result.assigns := by
  obtain ⟨conversation, _, rest⟩ := Except.bind_eq_ok.1 done
  obtain ⟨record, _, returned⟩ := Except.bind_eq_ok.1 rest
  rw [← Except.pure_eq_ok.1 returned, any_append, Text.any_assigns_assignmentLines one,
    Bool.or_true]

theorem emitAgent_settles (config : AgentConfig) :
    Returns (emitAgent context id config) (Emission.Settles · path (.agent config)) := by
  refine .bind _ (allocate_oneLine (by decide)) fun agent one => ?_
  refine .then_ fun _ => .then_ fun answer => .then_ fun _ => .then_ fun temporary => ?_
  refine .bind _ (allocate_oneLine (one.append (by decide))) fun result one => ?_
  exact .bind _ (liftError_returns fun lines done => any_assigns_runLines one done)
    fun lines assigned => .pure (settles_result rfl rfl assigned)

/-! ## Guardrails -/

def GuardrailNames.handedOn (names : GuardrailNames) : List Text := [names.output, names.checked]

/-- The code of a stage assigns the names in its last two lines. -/
theorem assigns_stage (names : GuardrailNames) (first second : Text) {checked output : Text}
    (checks : checked.startsWith " = ") (outputs : output.startsWith " = ") :
    ∀ name ∈ names.handedOn, (Statement.raw
      [first, second, names.checked ++ checked, names.output ++ output]).assigns name := by
  refine forall_mem_cons.2 ⟨?_, forall_mem_singleton.2 ?_⟩
  · exact any_eq_true.2 ⟨_, by simp, Text.assigns_append names.output outputs⟩
  · exact any_eq_true.2 ⟨_, by simp, Text.assigns_append names.checked checks⟩

theorem guardrailStage_assigns (names : GuardrailNames) :
    ∀ name ∈ names.handedOn, (guardrailStage names).assigns name := by
  unfold guardrailStage
  simp only [append_assoc]
  exact assigns_stage names _ _ rfl rfl

/-- A stage that may break assigns the names in its handler as well. -/
theorem guardedStage_settles (names : GuardrailNames) :
    Returns (guardedStage context names)
      fun stage => ∀ name ∈ names.handedOn, stage.settles name := by
  refine .then_ fun failure => .then_ fun record => .then_ fun description =>
    .pure fun name handed => ?_
  have inBody := guardrailStage_assigns names name handed
  have assigned : (" = " ++ names.input : Text).startsWith " = " :=
    Text.startsWith_append " = " names.input
  have inHandler := assigns_stage names (names.result ++ " = []") (names.tripwire ++ " = False")
    assigned assigned name handed
  simp only [Statement.settles, any_cons, any_nil, append_assoc, inBody, inHandler,
    Bool.or_true, Bool.or_false, Bool.and_true]

theorem emitGuardrail_settles (config : GuardrailConfig) :
    Returns (emitGuardrail context path id config)
      (Emission.Settles · path (.guardrail config)) := by
  unfold emitGuardrail
  refine .then_ fun names => .then_ fun source => .then_ fun entries => .then_ fun bundle => ?_
  have settled (first stage : Statement) (settles : ∀ name ∈ names.handedOn, stage.settles name) :
      ∀ name ∈ [names.output, names.checked, names.output], Block.settles name [first, stage] := by
    intro name handed
    have among : name ∈ names.handedOn := by
      unfold GuardrailNames.handedOn
      grind
    simp [Block.settles, settles name among]
  dsimp only
  split
  · exact .bind _ (guardedStage_settles names) fun stage settles => .pure (settled _ stage settles)
  · exact .bind (fun stage => ∀ name ∈ names.handedOn, stage.settles name)
      (.pure (guardrailStage_assigns names)) fun stage settles => .pure (settled _ stage settles)

/-! ## Ends -/

theorem emitFinish_settles (config : FinishConfig) :
    Returns (emitFinish context path id config) (Emission.Settles · path (.finish config)) := by
  have last {statements before : List Statement} {own value : Text}
      (same : statements ++ [.ret own] = before ++ [.ret value]) :
      statements = before ∧ own = value := by
    obtain ⟨front, back⟩ := append_inj' same rfl
    exact ⟨front, by simpa using back⟩
  unfold emitFinish
  split
  · refine .pure fun before value statements => .inl ?_
    exact (@last [] before path.current value statements).2.symm
  · refine .then_ fun keys => .then_ fun values => .bind _ (allocate_oneLine (by decide))
      fun result one => .then_ fun source => .pure fun before value statements => .inr ?_
    obtain ⟨rfl, rfl⟩ := @last [.raw _] before result value statements
    exact settles_raw (Text.any_assigns_assignmentLines one source)

/-! ## All nodes -/

theorem emission_settles (context : Context) (node : Node) (path : Path) :
    Returns (emission context node path) (Emission.Settles · path node.config) := by
  unfold emission
  cases node.config with
  | start => exact emitStart_settles
  | finish config => exact emitFinish_settles config
  | agent config => exact emitAgent_settles config
  | functionTool call => exact emitFunctionTool_settles call
  | transform source => exact emitTransform_settles source
  | setState assignments => exact emitSetState_settles assignments
  | branch cases => exact emitBranch_settles cases
  | loop condition => exact emitLoop_settles condition
  | approval message => exact emitApproval_settles message
  | fileSearch search => exact emitFileSearch_settles search
  | mcpTool config => exact emitServer_settles config
  | guardrail config => exact emitGuardrail_settles config

/-! ## What nodes take from their paths -/

section Names

variable {other : Path}

theorem expression_eq_of_names (same : path.names = other.names) (source id : Text) :
    expression context source path id = expression context source other id := by
  have current : path.current = other.current := (List.cons.inj same).1
  rw [expression, expression, scope, scope, current]

theorem callArguments_eq_of_names (same : path.names = other.names) (id tool : Text)
    (names : List Text) (arguments : List (Text × Text)) :
    callArguments context path id tool names arguments =
      callArguments context other id tool names arguments := by
  induction arguments with
  | nil => rfl
  | cons argument rest ih =>
    rw [callArguments, callArguments, ih, expression_eq_of_names same]

/-- What a node emits depends on its path only through the names that the path offers. -/
theorem emission_eq_of_names (same : path.names = other.names) (context : Context) (node : Node) :
    emission context node path = emission context node other := by
  obtain ⟨current, texts⟩ := List.cons.inj same
  have text : path.guardrailText = other.guardrailText := by
    simpa only [Option.head?_toList] using congrArg List.head? texts
  unfold emission
  cases node.config with
  | finish config => simp only [emitFinish, current, expression_eq_of_names same]
  | functionTool call => simp only [emitFunctionTool, callArguments_eq_of_names same]
  | transform source => simp only [emitTransform, expression_eq_of_names same]
  | setState assignments =>
    have lines :
        assignmentLine? context path node.id = assignmentLine? context other node.id := by
      funext assignment
      rw [assignmentLine?, assignmentLine?, expression_eq_of_names same]
    simp only [emitSetState, lines]
  | branch cases => simp only [emitBranch, expression_eq_of_names same]
  | loop condition => simp only [emitLoop, expression_eq_of_names same]
  | guardrail config =>
    simp only [emitGuardrail, guardrailSource, text, expression_eq_of_names same]
  | _ => rfl

end Names

end Emit

end AgentFlow
