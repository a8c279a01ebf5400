import AgentFlow.Emit.Path
import AgentFlow.Expr.Compile
import AgentFlow.Logging.Event
import AgentFlow.Symbol.Table
import AgentFlow.Workflow.Graph

/-!
# Drafts

While code is generated, names are handed out, the parts of the module are collected, and notes are
written to the log.  All that is the draft; it stays as it is when an error stops the work.
-/

namespace AgentFlow.Emit

/-- What is fixed while code is generated. -/
structure Context where
  graph : Workflow.Graph
  settings : Settings
  tools : List Workflow.FunctionTool

def Context.unit (context : Context) : Text := context.settings.unit

structure Draft where
  symbols : SymbolTable := {}
  module : Module.Builder := {}
  log : List LogEvent := []

/-- Work on a draft, which an error may stop. -/
abbrev Build := ExceptT Error (StateM Draft)

def note (logger : Text) (level : LogLevel) (message : Text) : Build Unit :=
  modify fun draft => { draft with log := draft.log ++ [⟨logger, level, message⟩] }

def liftError {α : Type} : Except Error α → Build α
  | .ok value => pure value
  | .error found => throw found

def symbolLogger : Text := "workflow_codegen.compiler.symbols"

def allocate (base : Text) : Build Text := do
  match (← get).symbols.allocate base with
  | some (name, symbols) =>
    modify fun draft => { draft with symbols }
    note symbolLogger .debug ("allocated symbol " ++ name)
    return name
  | none => throw (.breakdown (.symbolBase base))

def addImport (wanted : Module.Import) : Build Unit :=
  modify fun draft => { draft with module := draft.module.addImport wanted }

def declare (declaration : Module.Declaration) : Build Unit := do
  match (← get).module.declare declaration with
  | some module => modify fun draft => { draft with module }
  | none => throw (.problem (.conflictingDeclaration declaration.key))

def absorb (emission : Emission) : Build Unit := do
  emission.imports.forM addImport
  emission.declarations.forM declare

def layout (context : Context) (literal : Literal) : Except Error Text :=
  match literal.layout context.unit with
  | .ok source => .ok source
  | .error fault => .error (.breakdown (.literal fault))

/-- What expressions of a node may refer to. -/
def scope (context : Context) (path : Path) (id : Text) : Except Error Expr.Scope := do
  let inputFields ← liftShape context.graph.inputFieldNames
  return { inputFields
           stateFields := context.graph.workflow.state.map Prod.fst
           inputAlias := path.current
           nodeId := some id }

/-- The code of an expression in a scope; an error names the expression and the node. -/
def compiled (source : Text) (scope : Expr.Scope) : Except Error Text :=
  match Expr.compile source scope with
  | .ok code => .ok code
  | .error failure => .error (.ofFailure failure (some source) scope.nodeId)

def expression (context : Context) (source : Text) (path : Path) (id : Text) :
    Except Error Text := do
  compiled source (← scope context path id)

/-! ## Names of the generated module

The names that every generated module uses itself, which no symbol may be called.
-/

def history : Text := "conversation_history"

def workflowInput : Text := "workflow_input"

def client : Text := "client"

def guardrailContext : Text := "ctx"

def runtimeNames : List Text :=
  ["Agent", "ModelSettings", "TResponseInputItem", "Runner", "WebSearchTool", "function_tool",
    "Reasoning", "BaseModel", "AsyncOpenAI", "SimpleNamespace", "load_config_bundle",
    "instantiate_guardrails", "run_guardrails", "Client", "SSEClientTransport",
    "StdioClientTransport", "Any"]

def guardrailHelperNames : List Text :=
  ["guardrails_has_tripwire", "get_guardrail_checked_text", "build_guardrail_fail_output"]

/-- Names that generated code uses inside comprehensions. -/
def localNames : List Text := ["result", "item"]

def reservedNames (settings : Settings) : List Text :=
  [Expr.workflowRoot, Expr.stateRoot, history, workflowInput, client, guardrailContext,
    settings.entrypointName, settings.inputClassName] ++ runtimeNames ++ guardrailHelperNames ++
    localNames

end AgentFlow.Emit
