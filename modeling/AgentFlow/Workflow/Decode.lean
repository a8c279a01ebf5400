import AgentFlow.Decode.Basic
import AgentFlow.Workflow.Definition

/-!
# Decoding workflows

Reads a workflow from JSON.  Nodes and their configurations may carry further entries, which are
ignored; the workflow itself, its edges and its state variables may not.
-/

namespace AgentFlow.Workflow

open Decode

def decodeTexts : Decoder (List (Text × Text)) := dictionary text

/-! ## Configurations -/

def decodeFinish : Decoder FinishConfig :=
  record "EndConfig" fun entries =>
    FinishConfig.mk <$> withDefault "output" [] decodeTexts entries
      <*> withDefault "output_schema" none (optional object) entries

def decodeReasoning : Decoder Reasoning :=
  record "ReasoningOptions" fun entries =>
    Reasoning.mk <$> withDefault "effort" none (optional text) entries
      <*> withDefault "summary" none (optional text) entries

def partKinds : List (Text × PartKind) := [("input_text", .input), ("output_text", .output)]

def decodePart : Decoder MessagePart :=
  record "MessageContent" fun entries =>
    MessagePart.mk <$> withDefault "type" .input (choice partKinds) entries
      <*> withDefault "text" [] text entries

def roles : List (Text × Role) :=
  [("user", .user), ("assistant", .assistant), ("system", .system), ("developer", .developer)]

def decodeMessage : Decoder Message :=
  record "AgentMessage" fun entries =>
    Message.mk <$> withDefault "role" .user (choice roles) entries
      <*> withDefault "content" [] (list decodePart) entries
      <*> withDefault "id" none (optional text) entries

def decodeToolName : Decoder Text :=
  refine text fun name =>
    if name.isPlainName then none
    else some ("tool name " ++ name.shown ++ " is not a valid Python identifier")

def functionToolFields (entries : Entries) : Checked FunctionTool :=
  (fun (_ : Unit) => FunctionTool.mk)
    <$> withDefault "type" () (choice [("function", ())]) entries
    <*> required "name" decodeToolName entries
    <*> withDefault "description" none (optional text) entries
    <*> withDefault "parameters" [] object entries

def decodeWebSearch : Decoder WebSearch :=
  record "WebSearchToolDefinition" fun entries =>
    WebSearch.mk <$> withDefault "search_context_size" "medium" text entries
      <*> withDefault "user_location" [("type", .str "approximate")] object entries

def decodeAgentTool : Decoder AgentTool :=
  tagged "type"
    [("function", fun value =>
        AgentTool.function <$> record "FunctionToolDefinition" functionToolFields value),
      ("web_search", fun value => AgentTool.webSearch <$> decodeWebSearch value)]

def decodeOutputFormat : Decoder OutputFormat :=
  refine
    (record "OutputFormat" fun entries =>
      OutputFormat.mk
        <$> withDefault "type" false (choice [("text", false), ("json_schema", true)]) entries
        <*> withDefault (givenName "schema" "json_schema" entries) none (optional object) entries)
    fun format =>
      if format.structured && (format.schema.getD []).isEmpty then
        some "output_format: schema is required when type=\"json_schema\""
      else none

def decodeAgent : Decoder AgentConfig :=
  record "AgentConfig" fun entries =>
    AgentConfig.mk <$> withDefault "name" "Agent" text entries
      <*> withDefault "instructions" [] text entries
      <*> withDefault "model" none (optional text) entries
      <*> withDefault "tools" [] (list decodeAgentTool) entries
      <*> withDefault "reasoning" {} decodeReasoning entries
      <*> withDefault "parallel_tool_calls" false boolean entries
      <*> withDefault "store" true boolean entries
      <*> withDefault "messages" [] (list decodeMessage) entries
      <*> withDefault "output_format" {} decodeOutputFormat entries

def decodeFunctionCall : Decoder FunctionCall :=
  record "FunctionToolConfig" fun entries =>
    FunctionCall.mk <$> functionToolFields entries
      <*> withDefault "arguments" [] decodeTexts entries

def decodeAssignment : Decoder Assignment :=
  record "StateAssignment" fun entries =>
    Assignment.mk <$> required "name" text entries <*> withDefault "expression" [] text entries

/-- Decodes a record with a single text, empty by default. -/
def singleText (name key : Text) : Decoder Text :=
  record name fun entries => withDefault key [] text entries

/-- Decodes a record with a single list, empty by default. -/
def singleList {α : Type} (name key : Text) (decoder : Decoder α) : Decoder (List α) :=
  record name fun entries => withDefault key [] (list decoder) entries

def decodeFileSearch : Decoder FileSearch :=
  record "FileSearchConfig" fun entries =>
    FileSearch.mk <$> withDefault "vector_store_id" [] text entries
      <*> withDefault "query" [] text entries
      <*> withDefault "max_results" none (optional (integerFrom 1)) entries

def authKinds : List (Text × AuthKind) :=
  [("none", .open), ("api_key", .apiKey), ("bearer", .bearer), ("custom", .custom)]

def decodeAuth : Decoder Auth :=
  record "McpAuth" fun entries =>
    Auth.mk <$> withDefault "type" .open (choice authKinds) entries
      <*> withDefault "api_key" none (optional text) entries
      <*> withDefault "bearer_token" none (optional text) entries
      <*> withDefault "headers" [] decodeTexts entries

def decodeToolCall : Decoder ToolCall :=
  record "McpCall" fun entries =>
    ToolCall.mk <$> required "tool" nonEmptyText entries
      <*> withDefault "arguments" [] object entries

def transports : List (Text × Transport) := [("http", .http), ("sse", .sse), ("stdio", .stdio)]

def decodeServer : Decoder ServerConfig :=
  refine
    (record "McpToolConfig" fun entries =>
      ServerConfig.mk <$> withDefault "transport" .http (choice transports) entries
        <*> withDefault "url" [] text entries
        <*> withDefault "command" "python" text entries
        <*> withDefault "args" [] (list text) entries
        <*> withDefault "auth" {} decodeAuth entries
        <*> withDefault "calls" [] (list decodeToolCall) entries)
    fun config =>
      if config.calls.isEmpty then some "mcp_tool requires at least one entry in 'calls'" else none

def decodePolicy : Decoder Policy :=
  record "GuardrailPolicy" fun entries =>
    Policy.mk <$> required "type" nonEmptyText entries <*> withDefault "config" [] object entries

def decodeGuardrail : Decoder GuardrailConfig :=
  record "GuardrailConfig" fun entries =>
    GuardrailConfig.mk <$> withDefault "input" none (optional text) entries
      <*> withDefault "guardrails" [] (list decodePolicy) entries
      <*> withDefault "continue_on_error" false boolean entries

/-! ## Nodes, edges and workflows -/

def decodeConfig : Kind → Decoder Config
  | .start => record "StartConfig" fun _ => .valid .start
  | .finish => fun value => Config.finish <$> decodeFinish value
  | .agent => fun value => Config.agent <$> decodeAgent value
  | .functionTool => fun value => Config.functionTool <$> decodeFunctionCall value
  | .transform => fun value =>
    Config.transform <$> singleText "TransformConfig" "expression" value
  | .setState => fun value =>
    Config.setState <$> singleList "SetStateConfig" "assignments" decodeAssignment value
  | .branch => fun value =>
    Config.branch <$> singleList "IfConfig" "cases" (singleText "IfCase" "condition") value
  | .loop => fun value => Config.loop <$> singleText "WhileConfig" "condition" value
  | .approval => fun value => Config.approval <$> singleText "UserApprovalConfig" "message" value
  | .fileSearch => fun value => Config.fileSearch <$> decodeFileSearch value
  | .mcpTool => fun value => Config.mcpTool <$> decodeServer value
  | .guardrail => fun value => Config.guardrail <$> decodeGuardrail value

def defaultConfig? : Kind → Option Config
  | .start => some .start
  | .finish => some (.finish {})
  | .agent => some (.agent {})
  | .functionTool => none
  | .transform => some (.transform [])
  | .setState => some (.setState [])
  | .branch => some (.branch [])
  | .loop => some (.loop [])
  | .approval => some (.approval [])
  | .fileSearch => some (.fileSearch {})
  | .mcpTool => none
  | .guardrail => some (.guardrail {})

def nodeFields (kind : Kind) (entries : Entries) : Checked Node :=
  Node.mk <$> required "id" nonEmptyText entries
    <*> withDefault "label" none (optional text) entries
    <*> (match defaultConfig? kind with
      | some config => withDefault "config" config (decodeConfig kind) entries
      | none => required "config" (decodeConfig kind) entries)

def decodeNode : Decoder Node :=
  tagged "kind" (Kind.all.map fun kind => (kind.text, record "Node" (nodeFields kind)))

def decodeTag : Decoder Tag := fun value =>
  (text value).andThen fun name =>
    match Tag.ofText? name with
    | some tag => .valid tag
    | none => .fail (.refused ("unknown branch tag " ++ name.shown))

def decodeEdge : Decoder Edge :=
  strictRecord "Edge"
    (fun entries =>
      [givenName "from" "source" entries, givenName "to" "target" entries, ("branch" : Text)])
    fun entries =>
      Edge.mk <$> required (givenName "from" "source" entries) nonEmptyText entries
        <*> required (givenName "to" "target" entries) nonEmptyText entries
        <*> withDefault "branch" .plain decodeTag entries

def stateTypes : List (Text × StateType) :=
  [("string", .string), ("number", .number), ("bool", .bool), ("list", .list)]

def decodeStateVariable : Decoder StateVariable :=
  strictRecord "StateDeclaration" (fun _ => (["type", "default"] : List Text)) fun entries =>
    StateVariable.mk <$> withDefault "type" none (optional (choice stateTypes)) entries
      <*> withDefault "default" .null anything entries

def decodeState : Decoder (List (Text × StateVariable)) :=
  refine (dictionary decodeStateVariable) fun declared =>
    if declared.any (·.1.isEmpty) then some "state variable names cannot be empty" else none

def workflowKeys : List Text :=
  ["name", "entry_node_id", "state", "input_schema", "input_text_field", "nodes", "edges"]

def decode : Decoder Workflow :=
  strictRecord "WorkflowDefinition" (fun _ => workflowKeys) fun entries =>
    Workflow.mk <$> withDefault "name" none (optional text) entries
      <*> required "entry_node_id" nonEmptyText entries
      <*> withDefault "state" [] decodeState entries
      <*> withDefault "input_schema" defaultInputSchema object entries
      <*> withDefault "input_text_field" "input_as_text" text entries
      <*> withDefault "nodes" [] (list decodeNode) entries
      <*> withDefault "edges" [] (list decodeEdge) entries

end AgentFlow.Workflow
