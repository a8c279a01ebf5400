import AgentFlow.Emit.Draft

/-!
# Emitting calls of server tools

Opens a connection to a tool server, calls tools one after the other, and closes the connection.
-/

namespace AgentFlow.Emit

open Workflow

def given : Option Text → Option Text
  | some (c :: rest) => some (c :: rest)
  | _ => none

def authHeaders (auth : Auth) : List (Text × Text) :=
  match auth.kind with
  | .open => []
  | .apiKey =>
    match given auth.apiKey with
    | some key => [("Authorization", "Api-Key " ++ key)]
    | none => []
  | .bearer =>
    match given auth.bearerToken with
    | some token => [("Authorization", "Bearer " ++ token)]
    | none => []
  | .custom => auth.headers

def transportClass : Transport → Text
  | .stdio => "StdioClientTransport"
  | _ => "SSEClientTransport"

def transportComment : Transport → Text
  | .stdio => "# MCP Client initialization (stdio)"
  | _ => "# MCP Client initialization (HTTP/SSE)"

def transportArguments (context : Context) (config : ServerConfig) :
    Except Error (List Argument) :=
  match config.transport with
  | .stdio => do
    let args ← layout context (.list (config.args.map fun arg => .scalar (.str arg)))
    return [.named "command" config.command.doubleQuoted, .named "args" args]
  | _ => do
    let url := Argument.named "url" config.url.doubleQuoted
    match authHeaders config.auth with
    | [] => return [url]
    | headers =>
      let source ← layout context
        (.dict (headers.map fun (name, value) => (name, .scalar (.str value))))
      return [url, .named "headers" source]

def emitToolCall (context : Context) (connection : Text) (call : ToolCall) :
    Build (List Text) := do
  let result ← allocate "mcp_result"
  let arguments ← liftError (layout context (.dict (Literal.ofEntries call.arguments)))
  let invocation := layoutCall ("await " ++ connection ++ ".call_tool")
    [.named "name" call.tool.doubleQuoted, .named "arguments" arguments] context.unit
  return ([] : Text) :: ("# Call MCP tool" : Text) :: assignmentLines result invocation

def emitServer (context : Context) (config : ServerConfig) : Build Emission := do
  let transport ← allocate "mcp_transport"
  let connection ← allocate "mcp_client"
  let opened ← liftError (transportArguments context config)
  let opening := layoutCall (transportClass config.transport) opened context.unit
  let calls ← config.calls.mapM (emitToolCall context connection)
  return { statements :=
             [.raw (transportComment config.transport :: assignmentLines transport opening ++
               [connection ++ " = Client(transport=" ++ transport ++ ")",
                "await " ++ connection ++ ".initialize()"] ++ calls.flatten ++
               [([] : Text), "# Close connection", "await " ++ connection ++ ".close()"])]
           imports := [⟨"mcp.client", "Client"⟩, ⟨"mcp.client", transportClass config.transport⟩] }

end AgentFlow.Emit
