import AgentFlow.Json.Value
import AgentFlow.Workflow.Tag

/-!
# Workflow definitions

A workflow is a list of nodes and a list of tagged edges between them, with a declaration of its
input and of its state.  Every node has one of twelve kinds.  Schemas and free-form settings are
kept as JSON.
-/

namespace AgentFlow

namespace Workflow

inductive Kind where
  | start
  | finish
  | agent
  | functionTool
  | transform
  | setState
  | branch
  | loop
  | approval
  | fileSearch
  | mcpTool
  | guardrail
deriving DecidableEq, Repr

namespace Kind

def text : Kind → Text
  | start => "start"
  | finish => "end"
  | agent => "agent"
  | functionTool => "function_tool"
  | transform => "transform"
  | setState => "set_state"
  | branch => "if"
  | loop => "while"
  | approval => "user_approval"
  | fileSearch => "file_search"
  | mcpTool => "mcp_tool"
  | guardrail => "guardrail"

def all : List Kind :=
  [start, finish, agent, functionTool, transform, setState, branch, loop, approval, fileSearch,
    mcpTool, guardrail]

def ofText? (name : Text) : Option Kind := all.find? (·.text = name)

def isLinear : Kind → Bool
  | start | agent | functionTool | transform | setState | fileSearch | mcpTool | guardrail => true
  | finish | branch | loop | approval => false

end Kind

/-! ## Configurations -/

structure FinishConfig where
  output : List (Text × Text) := []
  schema : Option Entries := none

structure Reasoning where
  effort : Option Text := none
  summary : Option Text := none

inductive PartKind where
  | input
  | output
deriving DecidableEq, Repr

structure MessagePart where
  kind : PartKind := .input
  text : Text := []

inductive Role where
  | user
  | assistant
  | system
  | developer
deriving DecidableEq, Repr

structure Message where
  role : Role := .user
  content : List MessagePart := []
  id : Option Text := none

structure FunctionTool where
  name : Text
  description : Option Text := none
  parameters : Entries := []
deriving DecidableEq

/-- The search of the web as a tool of an agent. -/
structure WebSearch where
  contextSize : Text := "medium"
  userLocation : Entries := [("type", .str "approximate")]

inductive AgentTool where
  | function (tool : FunctionTool)
  | webSearch (tool : WebSearch)

/-- The form of an agent's answer: text, or data with a schema. -/
structure OutputFormat where
  structured : Bool := false
  schema : Option Entries := none

structure AgentConfig where
  name : Text := "Agent"
  instructions : Text := []
  model : Option Text := none
  tools : List AgentTool := []
  reasoning : Reasoning := {}
  parallelToolCalls : Bool := false
  store : Bool := true
  messages : List Message := []
  outputFormat : OutputFormat := {}

structure FunctionCall where
  tool : FunctionTool
  arguments : List (Text × Text) := []

structure Assignment where
  name : Text
  expression : Text := []

structure FileSearch where
  storeId : Text := []
  query : Text := []
  maxResults : Option Int := none

inductive AuthKind where
  | open
  | apiKey
  | bearer
  | custom
deriving DecidableEq, Repr

structure Auth where
  kind : AuthKind := .open
  apiKey : Option Text := none
  bearerToken : Option Text := none
  headers : List (Text × Text) := []

inductive Transport where
  | http
  | sse
  | stdio
deriving DecidableEq, Repr

structure ToolCall where
  tool : Text
  arguments : Entries := []

structure ServerConfig where
  transport : Transport := .http
  url : Text := []
  command : Text := "python"
  args : List Text := []
  auth : Auth := {}
  calls : List ToolCall := []

structure Policy where
  kind : Text
  config : Entries := []

structure GuardrailConfig where
  input : Option Text := none
  policies : List Policy := []
  continueOnError : Bool := false

inductive Config where
  | start
  | finish (config : FinishConfig)
  | agent (config : AgentConfig)
  | functionTool (call : FunctionCall)
  | transform (expression : Text)
  | setState (assignments : List Assignment)
  | branch (conditions : List Text)
  | loop (condition : Text)
  | approval (message : Text)
  | fileSearch (search : FileSearch)
  | mcpTool (config : ServerConfig)
  | guardrail (config : GuardrailConfig)

def Config.kind : Config → Kind
  | start => .start
  | finish _ => .finish
  | agent _ => .agent
  | functionTool _ => .functionTool
  | transform _ => .transform
  | setState _ => .setState
  | branch _ => .branch
  | loop _ => .loop
  | approval _ => .approval
  | fileSearch _ => .fileSearch
  | mcpTool _ => .mcpTool
  | guardrail _ => .guardrail

/-! ## Nodes, edges and workflows -/

structure Node where
  id : Text
  label : Option Text := none
  config : Config

def Node.kind (node : Node) : Kind := node.config.kind

structure Edge where
  source : Text
  target : Text
  tag : Tag := .plain
deriving DecidableEq, Repr

def Edge.describe (edge : Edge) : Text :=
  edge.source ++ " -[" ++ edge.tag.text ++ "]-> " ++ edge.target

inductive StateType where
  | string
  | number
  | bool
  | list
deriving DecidableEq, Repr

structure StateVariable where
  type : Option StateType := none
  default : Json := .null

/-- The input schema of a workflow that declares none: one required text. -/
def defaultInputSchema : Entries :=
  [("type", .str "object"),
    ("properties", .obj [("input_as_text", .obj [("type", .str "string")])]),
    ("required", .arr [.str "input_as_text"])]

end Workflow

open Workflow in
structure Workflow where
  name : Option Text := none
  entryId : Text
  state : List (Text × StateVariable) := []
  inputSchema : Entries := defaultInputSchema
  inputTextField : Text := "input_as_text"
  nodes : List Node := []
  edges : List Edge := []

end AgentFlow
