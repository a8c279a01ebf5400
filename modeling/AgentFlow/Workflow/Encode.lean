import AgentFlow.Workflow.Decode

/-!
# Encoding workflows

Writes a workflow as JSON, with every entry of every record in the order of its declaration.
-/

namespace AgentFlow

namespace Workflow

def encodeOptional : Option Text → Json
  | some value => .str value
  | none => .null

def encodeTexts (texts : List (Text × Text)) : Json :=
  .obj (texts.map fun (key, value) => (key, .str value))

def encodeSchema : Option Entries → Json
  | some schema => .obj schema
  | none => .null

def nameOf {α : Type} [DecidableEq α] (options : List (Text × α)) (value : α) : Json :=
  match options.find? (·.2 = value) with
  | some (name, _) => .str name
  | none => .null

def functionToolEntries (tool : FunctionTool) : Entries :=
  [("type", .str "function"), ("name", .str tool.name),
    ("description", encodeOptional tool.description), ("parameters", .obj tool.parameters)]

def encodeAgentTool : AgentTool → Json
  | .function tool => .obj (functionToolEntries tool)
  | .webSearch tool =>
    .obj [("type", .str "web_search"), ("search_context_size", .str tool.contextSize),
      ("user_location", .obj tool.userLocation)]

def encodeMessage (message : Message) : Json :=
  .obj [("role", nameOf roles message.role),
    ("content", .arr (message.content.map fun part =>
      .obj [("type", nameOf partKinds part.kind), ("text", .str part.text)])),
    ("id", encodeOptional message.id)]

def encodeAgent (config : AgentConfig) : Json :=
  .obj [("name", .str config.name), ("instructions", .str config.instructions),
    ("model", encodeOptional config.model), ("tools", .arr (config.tools.map encodeAgentTool)),
    ("reasoning", .obj [("effort", encodeOptional config.reasoning.effort),
      ("summary", encodeOptional config.reasoning.summary)]),
    ("parallel_tool_calls", .bool config.parallelToolCalls), ("store", .bool config.store),
    ("messages", .arr (config.messages.map encodeMessage)),
    ("output_format", .obj
      [("type", .str (if config.outputFormat.structured then "json_schema" else "text")),
        ("schema", encodeSchema config.outputFormat.schema)])]

def encodeServer (config : ServerConfig) : Json :=
  .obj [("transport", nameOf transports config.transport), ("url", .str config.url),
    ("command", .str config.command), ("args", .arr (config.args.map .str)),
    ("auth", .obj [("type", nameOf authKinds config.auth.kind),
      ("api_key", encodeOptional config.auth.apiKey),
      ("bearer_token", encodeOptional config.auth.bearerToken),
      ("headers", encodeTexts config.auth.headers)]),
    ("calls", .arr (config.calls.map fun call =>
      .obj [("tool", .str call.tool), ("arguments", .obj call.arguments)]))]

def encodeConfig : Config → Json
  | .start => .obj []
  | .finish config =>
    .obj [("output", encodeTexts config.output), ("output_schema", encodeSchema config.schema)]
  | .agent config => encodeAgent config
  | .functionTool call =>
    .obj (functionToolEntries call.tool ++ ([("arguments", encodeTexts call.arguments)] : Entries))
  | .transform expression => .obj [("expression", .str expression)]
  | .setState assignments =>
    .obj [("assignments", .arr (assignments.map fun assignment =>
      .obj [("name", .str assignment.name), ("expression", .str assignment.expression)]))]
  | .branch conditions =>
    .obj [("cases", .arr (conditions.map fun condition => .obj [("condition", .str condition)]))]
  | .loop condition => .obj [("condition", .str condition)]
  | .approval message => .obj [("message", .str message)]
  | .fileSearch search =>
    .obj [("vector_store_id", .str search.storeId), ("query", .str search.query),
      ("max_results", match search.maxResults with
        | some limit => .int limit
        | none => .null)]
  | .mcpTool config => encodeServer config
  | .guardrail config =>
    .obj [("input", encodeOptional config.input),
      ("guardrails", .arr (config.policies.map fun policy =>
        .obj [("type", .str policy.kind), ("config", .obj policy.config)])),
      ("continue_on_error", .bool config.continueOnError)]

def encodeNode (node : Node) : Json :=
  .obj [("id", .str node.id), ("label", encodeOptional node.label), ("kind", .str node.kind.text),
    ("config", encodeConfig node.config)]

def encodeEdge (edge : Edge) : Json :=
  .obj [("from", .str edge.source), ("to", .str edge.target), ("branch", .str edge.tag.text)]

def encodeStateVariable (declared : StateVariable) : Json :=
  .obj [("type", match declared.type with
    | some type => nameOf stateTypes type
    | none => .null), ("default", declared.default)]

end Workflow

open Workflow in
def Workflow.toJson (workflow : Workflow) : Json :=
  .obj [("name", encodeOptional workflow.name), ("entry_node_id", .str workflow.entryId),
    ("state", .obj (workflow.state.map fun (name, declared) =>
      (name, encodeStateVariable declared))),
    ("input_schema", .obj workflow.inputSchema),
    ("input_text_field", .str workflow.inputTextField),
    ("nodes", .arr (workflow.nodes.map encodeNode)),
    ("edges", .arr (workflow.edges.map encodeEdge))]

end AgentFlow
