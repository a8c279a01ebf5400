import AgentFlow.Emit.Draft
import AgentFlow.Schema.RecordClass
import AgentFlow.Workflow.Validate

/-!
# Function tools

Function tools are defined by nodes and by agents.  All definitions of one name must agree, and each
name is declared once, as a function without a body whose required parameters come first.
-/

namespace AgentFlow.Emit

open Workflow

/-! ## Collecting tools -/

def toolsOf (node : Node) : List FunctionTool :=
  match node.config with
  | .functionTool call => [call.tool]
  | .agent config => config.tools.filterMap fun tool => match tool with
    | .function tool => some tool
    | .webSearch _ => none
  | _ => []

def sortedParameters (tool : FunctionTool) : Entries :=
  tool.parameters.mergeSort fun a b => Text.le a.1 b.1

def pairText (entry : Text × Json) : Text :=
  "(" ++ entry.1.shown ++ ", " ++ entry.2.shown ++ ")"

/-- The text of the parameters as a list of pairs, sorted by their keys. -/
def parametersText (tool : FunctionTool) : Text :=
  "[" ++ Text.join ", " ((sortedParameters tool).map pairText) ++ "]"

/-- What definitions are compared by: the description and the text of the parameters, if they can
be written. -/
def definitionKey (tool : FunctionTool) : Except Error (Option Text × Text) :=
  if (Json.obj tool.parameters).isWritable then .ok (tool.description, parametersText tool)
  else .error (.breakdown (.numeral .unwritable))

/-- Whether two definitions agree: the description and, up to the order of its keys, the schema of
the parameters. -/
def sameSignature (a b : FunctionTool) : Except Error Bool := do
  return (← definitionKey a) = (← definitionKey b)

/-- The schema of the parameters of a tool; without parameters it is that of any object. -/
def parameterSchema (tool : FunctionTool) : Json :=
  if tool.parameters.isEmpty then .obj [("type", .str "object")] else .obj tool.parameters

/-- Adds a definition of a node to the tools known so far. -/
def addTool (node : Node) (tools : List FunctionTool) (tool : FunctionTool) :
    Except Error (List FunctionTool) :=
  match tools.find? (·.name = tool.name) with
  | none => do
    checkSchema (parameterSchema tool) (node.id ++ "." ++ tool.name ++ ".parameters")
    return tools ++ [tool]
  | some known => do
    if ← sameSignature known tool then .ok tools
    else .error (.problemOf node.id (.toolSignatures tool.name))

def collectTools (graph : Graph) : Except Error (List FunctionTool) :=
  graph.nodes.foldlM (fun tools node => (toolsOf node).foldlM (addTool node) tools) []

/-! ## Declaring tools -/

structure Parameter where
  name : Text
  type : Text
  required : Bool
deriving DecidableEq, Repr

def parametersOf (tool : Text) (required : List Json) : Entries → Except Error (List Parameter)
  | [] => .ok []
  | (name, schema) :: rest =>
    if !name.isIdentifier || Target.isKeyword name then
      .error (.problem (.parameterName tool name))
    else do
      let others ← parametersOf tool required rest
      return ⟨name, Schema.typeName schema, Json.str name ∈ required⟩ :: others

def parameters (tool : FunctionTool) : Except Error (List Parameter) := do
  let required ← liftShape (Schema.requiredNames tool.parameters)
  let properties ← liftShape (tool.parameters.getOr "properties" (.obj [])).entries
  let found ← parametersOf tool.name required properties
  return found.filter (·.required) ++ found.filter (!·.required)

def Parameter.text (parameter : Parameter) : Text :=
  parameter.name ++ ": " ++ parameter.type ++
    (if parameter.required then ([] : Text) else " = None")

def toolDeclaration (tool : FunctionTool) (unit : Text) : Except Error Module.Declaration := do
  let signature := Text.join ", " ((← parameters tool).map Parameter.text)
  let description : List Text := match tool.description with
    | some (c :: rest) => [unit ++ Text.doubleQuoted (c :: rest)]
    | _ => []
  return { key := "function_tool:" ++ tool.name
           group := .tools
           lines := ("def " ++ tool.name ++ "(" ++ signature ++ "):" : Text) ::
             (description ++ [unit ++ ("pass" : Text), []]) }

def toolImports (tool : FunctionTool) : Except Error (List Module.Import) := do
  if (← parameters tool).any (·.type = Schema.anyType) then
    return [⟨"typing", Schema.anyType⟩]
  else return []

/-! ## Calling tools -/

def toolNamed (context : Context) (tool : FunctionTool) : FunctionTool :=
  (context.tools.find? (·.name = tool.name)).getD tool

def callArguments (context : Context) (path : Path) (id : Text) (tool : Text)
    (names : List Text) : List (Text × Text) → Except Error (List Text)
  | [] => .ok []
  | (name, source) :: rest =>
    if name ∈ names then do
      let code ← expression context source path id
      let others ← callArguments context path id tool names rest
      return (name ++ "=" ++ code) :: others
    else .error (.problemOf id (.unknownParameter tool name))

def emitFunctionTool (context : Context) (path : Path) (id : Text) (call : FunctionCall) :
    Build Emission := do
  let tool := toolNamed context call.tool
  let known ← liftError (parameters tool)
  let arguments ← liftError
    (callArguments context path id tool.name (known.map Parameter.name) call.arguments)
  let result ← allocate "function_tool_result"
  let code := tool.name ++ "(" ++ Text.join ", " arguments ++ ")"
  return { statements := [.raw [result ++ " = \x7b\"output\": " ++ code ++ "\x7d"]]
           result := some result
           declarations := [← liftError (toolDeclaration tool context.unit)]
           imports := ← liftError (toolImports tool) }

end AgentFlow.Emit
