import AgentFlow.Proofs.Emit.Steady
import AgentFlow.Proofs.Schema.Mirrored

/-!
# What nodes ask the module for

Most nodes declare nothing.  A function tool declares its function, an approval the function that
asks, a file search the client, and a guardrail the client, its bundle and the helpers.  An agent
declares its tools and itself, after the classes of its answer.
-/

namespace AgentFlow.Emit

open List Workflow Stoppable

/-! ## What is asked for -/

/-- A name that was made from a base and handed out: it was free, and it is taken now. -/
structure Handed (taken later : List Text) (base name : Text) : Prop where
  free : name ∉ taken
  kept : name ∈ later
  usable : SymbolTable.isBase base = true
  grown : base.Extends name

def classLines (unit : Text) (answer : Option Schema.Typed) : List Text :=
  answer.toList.flatMap fun typed => typed.classes.flatMap (Schema.RecordClass.lines unit)

/-- The declaration of an agent, after the classes of its answer. -/
def agentDeclaration (unit id agent : Text) (answer : Option Schema.Typed) (call : Text) :
    Module.Declaration where
  key := "agent:" ++ id
  group := .agents
  lines := classLines unit answer ++ assignmentLines agent call ++ [[], []]

/-- The declaration of the function that asks for an approval. -/
def approvalDeclaration (unit id stub : Text) : Module.Declaration where
  key := "approval:" ++ id
  group := .tools
  lines := ["def " ++ stub ++ "(message: str):",
    unit ++ "# Replace with a real approval prompt; approves by default.",
    unit ++ "return True", []]

def bundleDeclaration (bundle source : Text) : Module.Declaration where
  key := "guardrails_bundle:" ++ bundle
  group := .guardrailBundles
  lines := assignmentLines bundle source

def anyImport : Module.Import := ⟨"typing", Schema.anyType⟩

/-- A parameter of a tool has the type of all values. -/
def TakesAny (tool : FunctionTool) : Prop :=
  ∃ found, parameters tool = .ok found ∧ ∃ parameter ∈ found, parameter.type = Schema.anyType

/-- What a tool of an agent needs. -/
inductive ToolParts.Serves (context : Context) (taken later : List Text) :
    AgentTool → ToolParts → Prop
  | function {tool declaration imports}
      (declared : toolDeclaration (toolNamed context tool) context.unit = .ok declaration)
      (any : anyImport ∈ imports ↔ TakesAny (toolNamed context tool)) :
      Serves context taken later (.function tool)
        ⟨[declaration], imports, ["function_tool(" ++ (toolNamed context tool).name ++ ")"]⟩
  | webSearch {search symbol declaration imports}
      (handed : Handed taken later "web_search_preview" symbol)
      (declared : webSearchDeclaration context symbol search = .ok declaration)
      (none : anyImport ∉ imports) :
      Serves context taken later (.webSearch search) ⟨[declaration], imports, [symbol]⟩

/-- What the tools of an agent need, names being handed out for one tool after the other. -/
inductive Served (context : Context) :
    List Text → List Text → List AgentTool → List ToolParts → Prop
  | nil {taken} : Served context taken taken [] []
  | cons {taken middle later tool tools} {part : ToolParts} {parts}
      (grown : taken ⊆ middle) (grown' : middle ⊆ later)
      (first : part.Serves context taken middle tool)
      (rest : Served context middle later tools parts) :
      Served context taken later (tool :: tools) (part :: parts)

/-- The type of an agent's answer, its classes being named after a name that was handed out. -/
inductive Answers (taken later : List Text) (config : AgentConfig) : Option Schema.Typed → Prop
  | plain (unasked : config.outputFormat.given = []) : Answers taken later config none
  | structured {place name : Text} {schema : Entries} {typed : Schema.Typed}
      (asked : config.outputFormat.given = [.obj schema])
      (handed : Handed taken later (Schema.pascal config.name ++ "Schema") name)
      (made : Schema.recordClass place name schema = .ok typed) :
      Answers taken later config (some typed)

/-- Whether nodes of a kind declare something. -/
def declares : Config → Bool
  | .agent _ | .functionTool _ | .approval _ | .fileSearch _ | .guardrail _ => true
  | _ => false

/-- What a node asks the module to declare, the names taken before and afterwards being given. -/
inductive Asks (context : Context) (taken later : List Text) (id : Text) : Config → Emission → Prop
  | nothing {config} {emission : Emission} (other : declares config = false)
      (none : emission.declarations = []) : Asks context taken later id config emission
  | fileSearch {search} {emission : Emission}
      (declared : emission.declarations = [clientDeclaration]) :
      Asks context taken later id (.fileSearch search) emission
  | functionTool {call : FunctionCall} {emission : Emission} {declaration}
      (made : toolDeclaration (toolNamed context call.tool) context.unit = .ok declaration)
      (declared : emission.declarations = [declaration]) :
      Asks context taken later id (.functionTool call) emission
  | approval {message stub} {emission : Emission}
      (handed : Handed taken later "approval_request" stub)
      (declared : emission.declarations = [approvalDeclaration context.unit id stub]) :
      Asks context taken later id (.approval message) emission
  | guardrail {config bundle entries source} {emission : Emission}
      (handed : Handed taken later "guardrails_config" bundle)
      (laid : layout context (.dict entries) = .ok source)
      (declared : emission.declarations =
        [clientDeclaration, bundleDeclaration bundle source, helperDeclaration context.unit]) :
      Asks context taken later id (.guardrail config) emission
  | agent {config : AgentConfig} {middle agent} {parts : List ToolParts}
      {answer : Option Schema.Typed} {call} {emission : Emission}
      (handed : Handed taken later "agent" agent)
      (served : Served context (taken ++ [agent]) middle config.tools parts)
      (grown : middle ⊆ later)
      (answers : Answers taken later config answer)
      (made : agentCall context config (parts.flatMap ToolParts.sources) answer = .ok call)
      (declared : emission.declarations = parts.flatMap ToolParts.declarations ++
        [agentDeclaration context.unit id agent answer call]) :
      Asks context taken later id (.agent config) emission

/-- All that generated code imports. -/
def knownImports : List Module.Import :=
  [⟨"agents", "Agent"⟩, ⟨"agents", "ModelSettings"⟩, ⟨"agents", "Runner"⟩,
    ⟨"agents", "TResponseInputItem"⟩, ⟨"agents", "WebSearchTool"⟩, ⟨"agents", "function_tool"⟩,
    ⟨"guardrails.runtime", "instantiate_guardrails"⟩, ⟨"guardrails.runtime", "load_config_bundle"⟩,
    ⟨"guardrails.runtime", "run_guardrails"⟩, ⟨"mcp.client", "Client"⟩,
    ⟨"mcp.client", "SSEClientTransport"⟩, ⟨"mcp.client", "StdioClientTransport"⟩,
    ⟨"openai", "AsyncOpenAI"⟩, ⟨"openai.types.shared.reasoning", "Reasoning"⟩,
    ⟨"pydantic", "BaseModel"⟩, ⟨"types", "SimpleNamespace"⟩, ⟨"typing", "Any"⟩]

def Known (imports : List Module.Import) : Prop := ∀ wanted ∈ imports, wanted ∈ knownImports

instance (imports : List Module.Import) : Decidable (Known imports) :=
  inferInstanceAs (Decidable (∀ wanted ∈ imports, wanted ∈ knownImports))

/-- A node declares something that has the type of all values: a parameter of a tool, or a field of
the classes of an answer. -/
inductive NeedsAny (context : Context) : Config → Prop
  | call {call : FunctionCall} (takes : TakesAny (toolNamed context call.tool)) :
      NeedsAny context (.functionTool call)
  | tool {config : AgentConfig} {tool} (used : .function tool ∈ config.tools)
      (takes : TakesAny (toolNamed context tool)) : NeedsAny context (.agent config)
  | answer {config : AgentConfig} {schema}
      (asked : .obj schema ∈ config.outputFormat.given) (loose : Schema.HasLoose schema) :
      NeedsAny context (.agent config)

/-- What a node imports: known names, and the type of all values where the node needs it. -/
structure Imported (context : Context) (config : Config) (imports : List Module.Import) : Prop where
  known : Known imports
  any : anyImport ∈ imports ↔ NeedsAny context config

/-- Work that returns what a node with an id and a configuration may ask for. -/
def Asking (context : Context) (id : Text) (config : Config) (taken : List Text)
    (work : Build Emission) : Prop :=
  Orderly taken (fun later emission =>
    Asks context taken later id config emission ∧ Imported context config emission.imports) work

/-! ## Asking -/

variable {context : Context} {path : Path} {id : Text} {taken later : List Text} {config : Config}
  {imports : List Module.Import}

theorem Handed.widen {last : List Text} {base name : Text} (handed : Handed taken later base name)
    (more : later ⊆ last) : Handed taken last base name :=
  { handed with kept := more handed.kept }

theorem Orderly.and {α : Type} {goes : List Text → α → Prop} {property : α → Prop} {work : Build α}
    (orderly : Orderly taken goes work) (returns : Returns work property) :
    Orderly taken (fun later value => goes later value ∧ property value) work := fun draft start =>
  let ordered := orderly draft start
  ⟨ordered.keeps, ordered.grows, ordered.external, fun value same =>
    ⟨ordered.returns value same, returns (Prod.ext same rfl)⟩⟩

theorem allocate_hands (base : Text) (taken : List Text) :
    Orderly taken (fun later name => later = taken ++ [name] ∧ Handed taken later base name)
      (allocate base) := by
  refine ((allocate_orderly base taken).and (allocate_returns base)).mono ?_
  rintro _ name ⟨⟨free, rfl⟩, usable, grown⟩
  exact ⟨rfl, free, by simp, usable, grown⟩

theorem expression_orderly (source : Text) (taken : List Text) :
    Orderly taken Anything (liftError (expression context source path id)) :=
  (liftError_orderly (expression_agree (.refl context) path id id source) taken).mono
    fun _ _ _ => trivial

theorem layout_orderly (literal : Literal) (taken : List Text) :
    Orderly taken (fun _ source => layout context literal = .ok source)
      (liftError (layout context literal)) :=
  (liftError_orderly (layout_agree (.refl context) literal) taken).mono fun _ _ => And.right

theorem imported_of_known (none : ¬ NeedsAny context config)
    (known : Known imports ∧ anyImport ∉ imports) : Imported context config imports :=
  ⟨known.1, iff_of_false known.2 none⟩

theorem imported_nil (none : ¬ NeedsAny context config) :
    Imported context config [] := imported_of_known none (by decide)

theorem emitFinish_asks (config : FinishConfig) :
    Asking context id (.finish config) taken (emitFinish context path id config) := by
  unfold emitFinish
  split
  · exact .pure ⟨.nothing rfl rfl, imported_nil nofun⟩
  · have fields : Agree (config.output.mapM fun entry => do
        return (entry.1, Literal.code (← expression context entry.2 path id)))
        (config.output.mapM fun entry => do
          return (entry.1, Literal.code (← expression context entry.2 path id))) :=
      .mapM (fun entry => (expression_agree (.refl context) path id id entry.2).bind fun _ =>
        .pure _) config.output
    exact (liftError_orderly (schemaKeys_agree id id _) _).then_ fun _ _ _ =>
      (liftError_orderly fields _).then_ fun _ _ _ => (allocate_orderly _ _).then_ fun _ _ _ =>
        (layout_orderly _ _).then_ fun _ _ _ => .pure ⟨.nothing rfl rfl, imported_nil nofun⟩

theorem emitTransform_asks (source : Text) :
    Asking context id (.transform source) taken (emitTransform context path id source) := by
  unfold emitTransform
  dsimp only
  split
  · exact (Orderly.pure (show Anything taken _ from trivial)).then_ fun _ _ _ =>
      (allocate_orderly _ _).then_ fun _ _ _ => .pure ⟨.nothing rfl rfl, imported_nil nofun⟩
  · exact (expression_orderly _ _).then_ fun _ _ _ =>
      (allocate_orderly _ _).then_ fun _ _ _ => .pure ⟨.nothing rfl rfl, imported_nil nofun⟩

theorem emitApproval_asks (message : Text) :
    Asking context id (.approval message) taken (emitApproval context id message) :=
  (allocate_hands _ _).bind fun _ _ _ handed => (allocate_orderly _ _).then_ fun _ _ grown =>
    .pure ⟨.approval (handed.2.widen grown) rfl, imported_nil nofun⟩

theorem emitToolCall_orderly (connection : Text) (call : ToolCall) (taken : List Text) :
    Orderly taken Anything (emitToolCall context connection call) :=
  (allocate_orderly _ _).then_ fun _ _ _ => (layout_orderly _ _).then_ fun _ _ _ => .pure trivial

theorem emitServer_asks (config : ServerConfig) :
    Asking context id (.mcpTool config) taken (emitServer context config) := by
  have imported (transport : Transport) : Imported context (.mcpTool config)
      [⟨"mcp.client", "Client"⟩, ⟨"mcp.client", transportClass transport⟩] :=
    imported_of_known nofun (by cases transport <;> decide)
  exact (allocate_orderly _ _).then_ fun _ _ _ => (allocate_orderly _ _).then_ fun connection _ _ =>
    (liftError_orderly (transportArguments_agree (.refl context) config) _).then_ fun _ _ _ =>
      (Orderly.mapM (emitToolCall_orderly connection) config.calls _).then_ fun _ _ _ =>
        .pure ⟨.nothing rfl rfl, imported _⟩

/-! ### Tools -/

theorem toolImports_eq_ok {tool : FunctionTool} (done : toolImports tool = .ok imports) :
    Known imports ∧ (anyImport ∈ imports ↔ TakesAny tool) := by
  obtain ⟨found, listed, same⟩ := Except.bind_eq_ok.1 done
  have takes : TakesAny tool ↔ found.any (·.type = Schema.anyType) = true := by
    simp [TakesAny, listed]
  split at same
  · next any =>
      cases same
      exact ⟨by decide, iff_of_true (by decide) (takes.2 any)⟩
  · next none =>
      cases same
      exact ⟨by decide, iff_of_false (by decide) (mt takes.1 none)⟩

theorem emitFunctionTool_asks (call : FunctionCall) :
    Asking context id (.functionTool call) taken (emitFunctionTool context path id call) :=
  (liftError_orderly (parameters_agree _) _).then_ fun _ _ _ =>
    (liftError_orderly (callArguments_agree (.refl context) path id id _ _ _) _).then_ fun _ _ _ =>
      (allocate_orderly _ _).then_ fun _ _ _ =>
        (liftError_orderly (toolDeclaration_agree _ _) _).bind fun _ _ _ made =>
          (liftError_orderly (toolImports_agree _) _).bind fun _ _ _ imported =>
            have ⟨known, any⟩ := toolImports_eq_ok imported.2
            .pure ⟨.functionTool made.2 rfl, known, any.trans ⟨.call, fun | .call takes => takes⟩⟩

theorem toolParts_serves (tool : AgentTool) (taken : List Text) :
    Orderly taken (fun later parts => parts.Serves context taken later tool ∧ Known parts.imports)
      (toolParts context tool) := by
  cases tool with
  | function tool =>
    exact (liftError_orderly (toolDeclaration_agree _ _) _).bind fun _ _ _ made =>
      (liftError_orderly (toolImports_agree _) _).bind fun _ _ _ imported =>
        have ⟨known, any⟩ := toolImports_eq_ok imported.2
        .pure ⟨.function made.2 (mem_append.trans ((or_iff_left (by decide)).trans any)),
          forall_mem_append.2 ⟨known, by decide⟩⟩
  | webSearch tool =>
    exact (allocate_hands _ _).bind fun symbol _ _ handed =>
      (liftError_orderly (webSearchDeclaration_agree (.refl context) symbol tool) _).bind
        fun _ _ grown made => .pure ⟨.webSearch (handed.2.widen grown) made.2 (by decide),
          show Known [⟨"agents", "WebSearchTool"⟩] by decide⟩

theorem toolParts_served (tools : List AgentTool) (taken : List Text) :
    Orderly taken (fun later parts => Served context taken later tools parts ∧
      ∀ part ∈ parts, Known part.imports) (tools.mapM (toolParts context)) := by
  induction tools generalizing taken with
  | nil => exact .pure ⟨.nil, nofun⟩
  | cons tool rest ih =>
    rw [mapM_cons]
    refine (toolParts_serves tool taken).bind fun part middle grown first => ?_
    refine (ih middle).bind fun others later grown' more => .pure ?_
    exact ⟨.cons grown grown' first.1 more.1, forall_mem_cons.2 ⟨first.2, more.2⟩⟩

/-- The tools of an agent import the type of all values where one of them needs it. -/
theorem Served.any {taken later : List Text} {tools : List AgentTool} {parts : List ToolParts}
    (served : Served context taken later tools parts) :
    anyImport ∈ parts.flatMap ToolParts.imports ↔
      ∃ tool, .function tool ∈ tools ∧ TakesAny (toolNamed context tool) := by
  induction served with
  | nil => simp
  | cons _ _ first _ ih =>
    rw [flatMap_cons, mem_append, ih]
    cases first with
    | function _ any => simp [any, or_and_right, exists_or]
    | webSearch _ _ none => simp [none]

theorem foldl_append_parts (parts : List ToolParts) (start : ToolParts) :
    parts.foldl ToolParts.append start =
      ⟨start.declarations ++ parts.flatMap ToolParts.declarations,
        start.imports ++ parts.flatMap ToolParts.imports,
        start.sources ++ parts.flatMap ToolParts.sources⟩ := by
  induction parts generalizing start with
  | nil => simp
  | cons head tail ih => simp [ih, ToolParts.append]

/-! ### Agents and guardrails -/

theorem answerClass_answers (config : AgentConfig) (taken : List Text) :
    Orderly taken (fun later answer => Answers taken later config answer)
      (answerClass id config) := by
  unfold answerClass
  split
  · next entry rest structured given =>
      refine (liftError_orderly (checkSchema_agree _ _ []) _).bind fun _ middle _ same => ?_
      obtain ⟨rfl, -⟩ := same
      refine (allocate_hands _ _).bind fun name _ _ handed => ?_
      refine (liftError_orderly (Schema.recordClass_agree _ [] _ _) _).bind
        fun typed _ grown made => .pure (.structured ?_ (handed.2.widen grown) made.2)
      rw [OutputFormat.given, structured, given]
      rfl
  · next other =>
      refine .pure (.plain ?_)
      unfold OutputFormat.given givenSchema
      split
      · next structured =>
          split
          · next entry rest given => exact absurd given (other entry rest structured)
          · rfl
      · rfl

theorem needsAny_agent {config : AgentConfig} : NeedsAny context (.agent config) ↔
    (∃ tool, .function tool ∈ config.tools ∧ TakesAny (toolNamed context tool)) ∨
      ∃ schema, .obj schema ∈ config.outputFormat.given ∧ Schema.HasLoose schema :=
  ⟨fun | .tool used takes => .inl ⟨_, used, takes⟩ | .answer asked loose => .inr ⟨_, asked, loose⟩,
    fun | .inl ⟨_, used, takes⟩ => .tool used takes | .inr ⟨_, asked, loose⟩ => .answer asked loose⟩

/-- What an agent imports: what it always needs, what its tools need, the type of all values for the
classes of its answer, and maybe a class for its settings. -/
theorem imported_agent {config : AgentConfig} {parts : List ToolParts} {needsAny : Bool}
    {reasoning : List Module.Import} (served : Served context taken later config.tools parts)
    (known : ∀ part ∈ parts, Known part.imports) (any : needsAny = true ↔
      ∃ schema, .obj schema ∈ config.outputFormat.given ∧ Schema.HasLoose schema)
    (reasons : reasoning = [] ∨ reasoning = [⟨"openai.types.shared.reasoning", "Reasoning"⟩]) :
    Imported context (.agent config) ([⟨"agents", "Agent"⟩, ⟨"agents", "ModelSettings"⟩,
      ⟨"agents", "Runner"⟩] ++ parts.flatMap ToolParts.imports ++
      (if needsAny then [anyImport] else []) ++ reasoning) := by
  have rest : Known reasoning ∧ anyImport ∉ reasoning := by
    rcases reasons with rfl | rfl <;> decide
  refine ⟨forall_mem_append.2 ⟨forall_mem_append.2
    ⟨forall_mem_append.2 ⟨by decide, fun wanted listed => ?_⟩, ?_⟩, rest.1⟩, ?_⟩
  · obtain ⟨part, among, inside⟩ := mem_flatMap.1 listed
    exact known part among wanted inside
  · split <;> decide
  · rw [needsAny_agent, ← any, ← served.any, mem_append, mem_append, mem_append,
      or_iff_left rest.2, or_iff_right (show anyImport ∉ [_, _, _] by decide)]
    cases needsAny <;> simp

theorem emitAgent_asks (config : AgentConfig) :
    Asking context id (.agent config) taken (emitAgent context id config) := by
  unfold emitAgent
  refine (allocate_hands _ _).bind fun agent _ zero handed => ?_
  obtain ⟨rfl, handed⟩ := handed
  refine (toolParts_served config.tools _).bind fun parts middle one served => ?_
  refine (answerClass_answers config _).bind fun answer _ two answers => ?_
  refine (liftError_orderly (agentCall_agree (.refl context) _ _ _) _).bind
    fun call _ three made => ?_
  refine (allocate_orderly _ _).then_ fun _ _ four => ?_
  refine (allocate_orderly _ _).then_ fun _ _ five => ?_
  refine (liftError_orderly (runLines_agree (.refl context) _ _ _ _ _) _).then_
    fun _ later six => .pure ⟨?_, ?_⟩
  · have rest := List.Subset.trans three (List.Subset.trans four (List.Subset.trans five six))
    have grown := List.Subset.trans two rest
    have answered : Answers taken later config answer := by
      cases answers with
      | plain unasked => exact .plain unasked
      | structured asked named done =>
        refine .structured asked ⟨fun old => named.free ?_, rest named.kept, named.usable,
          named.grown⟩ done
        exact one (zero old)
    rw [foldl_append_parts, nil_append] at made ⊢
    exact .agent (handed.widen (List.Subset.trans one grown)) served.1 grown answered made.2 rfl
  · rw [foldl_append_parts]
    refine imported_agent served.1 served.2 ?_ (by split <;> simp)
    cases answers with
    | plain unasked => simp [unasked]
    | structured asked _ done => simp [asked, Schema.needsAny_iff done]

theorem guardrailNames_hands (taken : List Text) :
    Orderly taken (fun later names => Handed taken later "guardrails_config" names.bundle)
      guardrailNames :=
  (allocate_hands _ _).bind fun _ _ _ handed => (allocate_orderly _ _).then_ fun _ _ one =>
    (allocate_orderly _ _).then_ fun _ _ two => (allocate_orderly _ _).then_ fun _ _ three =>
      (allocate_orderly _ _).then_ fun _ _ four => (allocate_orderly _ _).then_ fun _ _ five =>
        .pure ((((((handed.2.widen one).widen two).widen three).widen four).widen five))

theorem guardedStage_orderly (names : GuardrailNames) (taken : List Text) :
    Orderly taken Anything (guardedStage context names) :=
  (allocate_orderly _ _).then_ fun _ _ _ => (allocate_orderly _ _).then_ fun _ _ _ =>
    (layout_orderly _ _).then_ fun _ _ _ => .pure trivial

theorem emitGuardrail_asks (config : GuardrailConfig) :
    Asking context id (.guardrail config) taken (emitGuardrail context path id config) := by
  have imported : Imported context (.guardrail config) (clientImports ++
      [⟨"guardrails.runtime", "load_config_bundle"⟩,
        ⟨"guardrails.runtime", "instantiate_guardrails"⟩,
        ⟨"guardrails.runtime", "run_guardrails"⟩]) := imported_of_known nofun (by decide)
  unfold emitGuardrail
  refine (guardrailNames_hands taken).bind fun names _ _ handed => ?_
  refine (liftError_orderly (guardrailSource_agree (.refl context) path id id _) _).then_
    fun _ _ one => ?_
  refine (liftError_orderly (.mapM policyEntry_agree _) _).then_ fun _ _ two => ?_
  refine (layout_orderly _ _).bind fun _ _ three laid => ?_
  have kept := ((handed.widen one).widen two).widen three
  dsimp only
  split
  · exact (guardedStage_orderly names _).then_ fun _ _ four =>
      .pure ⟨.guardrail (kept.widen four) laid rfl, imported⟩
  · exact (Orderly.pure (show Anything _ _ from trivial)).then_ fun _ _ four =>
      .pure ⟨.guardrail (kept.widen four) laid rfl, imported⟩

/-! ### All nodes -/

/-- **What a node asks for.** -/
theorem emission_asks (context : Context) (node : Node) (path : Path) (taken : List Text) :
    Asking context node.id node.config taken (emission context node path) := by
  unfold emission
  cases node.config with
  | start =>
    exact (layout_orderly _ _).then_ fun _ _ _ => (layout_orderly _ _).then_ fun _ _ _ =>
      .pure ⟨.nothing rfl rfl, @imported_of_known _ _ [_] nofun (by decide)⟩
  | finish config => exact emitFinish_asks config
  | agent config => exact emitAgent_asks config
  | functionTool call => exact emitFunctionTool_asks call
  | transform source => exact emitTransform_asks source
  | setState assignments =>
    exact (liftError_orderly (.mapM (assignmentLine?_agree (.refl context) path node.id node.id)
      assignments)
      _).then_ fun _ _ _ => .pure ⟨.nothing rfl rfl, imported_nil nofun⟩
  | branch conditions =>
    exact (liftError_orderly (.mapM (expression_agree (.refl context) path node.id node.id)
      conditions) _).then_ fun _ _ _ => .pure ⟨.nothing rfl rfl, imported_nil nofun⟩
  | loop condition =>
    exact (expression_orderly _ _).then_ fun _ _ _ => .pure ⟨.nothing rfl rfl, imported_nil nofun⟩
  | approval message => exact emitApproval_asks message
  | fileSearch search =>
    exact (allocate_orderly _ _).then_ fun _ _ _ =>
      .pure ⟨.fileSearch rfl, @imported_of_known _ _ clientImports nofun (by decide)⟩
  | mcpTool server => exact emitServer_asks server
  | guardrail config => exact emitGuardrail_asks config

theorem emission_returns_asks (context : Context) (node : Node) (path : Path) :
    Returns (emission context node path) fun emission =>
      (∃ taken later, Asks context taken later node.id node.config emission) ∧
        Imported context node.config emission.imports := by
  intro draft last found done
  have asks := (emission_asks context node path _ draft rfl).returns found (by rw [done])
  exact ⟨⟨_, _, asks.1⟩, asks.2⟩

end AgentFlow.Emit
