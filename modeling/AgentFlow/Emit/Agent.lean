import AgentFlow.Emit.FunctionTool

/-!
# Emitting agents

An agent is declared at module level, after the tools and the record classes it uses.  At its node
it is run over the conversation, and what it says is added to the conversation.
-/

namespace AgentFlow.Emit

open Workflow

/-- What the tools of an agent need: declarations, imports, and the code of each tool. -/
structure ToolParts where
  declarations : List Module.Declaration := []
  imports : List Module.Import := []
  sources : List Text := []

def ToolParts.append (a b : ToolParts) : ToolParts :=
  ⟨a.declarations ++ b.declarations, a.imports ++ b.imports, a.sources ++ b.sources⟩

def webSearchDeclaration (context : Context) (symbol : Text) (tool : WebSearch) :
    Except Error Module.Declaration := do
  let location ← layout context (.dict (Literal.ofEntries tool.userLocation))
  let call := layoutCall "WebSearchTool"
    [.named "search_context_size" tool.contextSize.doubleQuoted, .named "user_location" location]
    context.unit
  return { key := "web_search:" ++ symbol, group := .tools, lines := assignmentLines symbol call }

def toolParts (context : Context) : AgentTool → Build ToolParts
  | .function tool => do
    let definition := toolNamed context tool
    let declaration ← liftError (toolDeclaration definition context.unit)
    let imports ← liftError (toolImports definition)
    return { declarations := [declaration]
             imports := imports ++ [⟨"agents", "function_tool"⟩]
             sources := ["function_tool(" ++ definition.name ++ ")"] }
  | .webSearch tool => do
    let symbol ← allocate "web_search_preview"
    let declaration ← liftError (webSearchDeclaration context symbol tool)
    return { declarations := [declaration]
             imports := [⟨"agents", "WebSearchTool"⟩]
             sources := [symbol] }

def answerClass (id : Text) (config : AgentConfig) : Build (Option Schema.Typed) :=
  match config.outputFormat.structured, config.outputFormat.schema with
  | true, some (entry :: rest) => do
    let place : Text := id ++ ".output_format.schema"
    liftError (checkSchema (.obj (entry :: rest)) place)
    let name ← allocate (Schema.pascal config.name ++ "Schema")
    return some (← liftError (Schema.recordClass place name (entry :: rest)))
  | _, _ => return none

/-- A text if it is there and not empty, else another one under the same condition. -/
def givenOr (first second : Option Text) : Option Text :=
  match first, second with
  | some (c :: rest), _ => some (c :: rest)
  | _, some (c :: rest) => some (c :: rest)
  | _, _ => none

def reasoningCall (context : Context) (config : AgentConfig) : Option Text :=
  let effort := givenOr config.reasoning.effort context.settings.reasoningEffort
  let summary := givenOr config.reasoning.summary context.settings.reasoningSummary
  let arguments := (effort.toList.map fun value => Argument.named "effort" value.doubleQuoted) ++
    (summary.toList.map fun value => Argument.named "summary" value.doubleQuoted)
  if arguments.isEmpty then none else some (layoutCall "Reasoning" arguments context.unit)

def spelledBool (value : Bool) : Text := (Scalar.bool value).spelled

def agentCall (context : Context) (config : AgentConfig) (sources : List Text)
    (answer : Option Schema.Typed) : Except Error Text := do
  let unit := context.unit
  let parallel : List Argument := if sources.isEmpty then []
    else [.named "parallel_tool_calls" (spelledBool config.parallelToolCalls)]
  let reasoning := (reasoningCall context config).toList.map (Argument.named "reasoning")
  let settings := parallel ++ [Argument.named "store" (spelledBool config.store)] ++ reasoning
  let model : Text := (givenOr config.model none).getD context.settings.defaultModel
  let tools : List Argument ←
    if sources.isEmpty then pure []
    else do
      let source ← layout context (.list (sources.map .code))
      pure [Argument.named "tools" source]
  let output := answer.toList.map fun typed => Argument.named "output_type" typed.type
  return layoutCall "Agent"
    ([.named "name" config.name.doubleQuoted,
      .named "instructions" config.instructions.doubleQuoted,
      .named "model" model.doubleQuoted] ++ tools ++ output ++
      [.named "model_settings" (layoutCall "ModelSettings" settings unit)]) unit

def messageLiteral (message : Message) : Literal :=
  let role : Text := match message.role with
    | .user => "user"
    | .assistant => "assistant"
    | .system => "system"
    | .developer => "developer"
  let parts := message.content.map fun part =>
    Literal.dict [("type", .scalar (.str (match part.kind with
      | .input => "input_text"
      | .output => "output_text"))), ("text", .scalar (.str part.text))]
  let id : List (Text × Literal) := match message.id with
    | some id => [("id", .scalar (.str id))]
    | none => []
  .dict (("role", .scalar (.str role)) :: ("content", .list parts) :: id)

def answerRecord (temporary : Text) (structured : Bool) : Literal :=
  if structured then
    .dict [("output_text", .code (temporary ++ ".final_output.model_dump_json()")),
      ("output_parsed", .code (temporary ++ ".final_output.model_dump()"))]
  else .dict [("output_text", .code (temporary ++ ".final_output_as(str)"))]

def runLines (context : Context) (config : AgentConfig) (agent temporary result : Text)
    (structured : Bool) : Except Error (List Text) := do
  let conversation ← layout context
    (.list (.code ("*" ++ history) :: config.messages.map messageLiteral))
  let call := layoutCall "await Runner.run" [.positional agent, .named "input" conversation]
    context.unit
  let record ← layout context (answerRecord temporary structured)
  return assignmentLines temporary call ++
    [([] : Text),
      history ++ ".extend([item.to_input_item() for item in " ++ temporary ++ ".new_items])",
      ([] : Text)] ++ assignmentLines result record

def emitAgent (context : Context) (id : Text) (config : AgentConfig) : Build Emission := do
  let agent ← allocate "agent"
  let parts := (← config.tools.mapM (toolParts context)).foldl ToolParts.append {}
  let answer ← answerClass id config
  let needsAny : Bool := match answer with
    | some typed => typed.needsAny
    | none => false
  let call ← liftError (agentCall context config parts.sources answer)
  let classLines := answer.toList.flatMap fun typed =>
    typed.classes.flatMap (Schema.RecordClass.lines context.unit)
  let temporary ← allocate (agent ++ "_result_temp")
  let result ← allocate (agent ++ "_result")
  let lines ← liftError (runLines context config agent temporary result answer.isSome)
  let reasoning : List Module.Import := match reasoningCall context config with
    | some _ => [⟨"openai.types.shared.reasoning", "Reasoning"⟩]
    | none => []
  let anyImport : List Module.Import :=
    if needsAny then [⟨"typing", Schema.anyType⟩] else []
  return { statements := [.raw lines]
           result := some result
           imports := [⟨"agents", "Agent"⟩, ⟨"agents", "ModelSettings"⟩, ⟨"agents", "Runner"⟩] ++
             parts.imports ++ anyImport ++ reasoning
           declarations := parts.declarations ++
             [{ key := "agent:" ++ id
                group := .agents
                lines := classLines ++ assignmentLines agent call ++ [[], []] }] }

end AgentFlow.Emit
