import AgentFlow.Module.Assemble
import AgentFlow.Workflow.Document

/-!
# Compiling workflows

A workflow is read, its graph is checked, and the module is generated.  Nothing is generated when
any step fails.
-/

namespace AgentFlow

open Workflow Emit

def checkedGraph (workflow : Workflow) : Except Error Graph := do
  let graph ← Graph.build workflow
  validate graph
  return graph

def loadGraph (payload : Payload) : Except Error Graph := do checkedGraph (← payload.workflow)

def walkLogger : Text := "workflow_codegen.compiler.linearize"

/-- The emitter of a compilation, which notes every node. -/
def notingEmitter (context : Context) : Linear.Emitter Draft := fun node path => do
  note walkLogger .debug ("linearizing node " ++ node.id ++ " (" ++ node.kind.text ++ ")")
  emitNode context node path

def body (context : Context) : Build Block :=
  Linear.linearize context.graph (notingEmitter context)

def assemblyLogger : Text := "workflow_codegen.compiler.assemble"

def compiledMessage (context : Context) (draft : Draft) : Text :=
  let workflow := context.graph.workflow
  let name : Text := match workflow.name with
    | some (c :: rest) => c :: rest
    | _ => workflow.entryId
  "compiled workflow " ++ name ++ ": " ++ Text.ofNat workflow.nodes.length ++ " nodes, " ++
    Text.ofNat draft.symbols.allocated.length ++ " symbols, " ++
    Text.ofNat draft.module.declarations.length ++ " declarations"

def generate (context : Context) : Build Text := do
  let source ← Module.assemble context (.block (← body context))
  note assemblyLogger .info (compiledMessage context (← get))
  return source

def generateNoting (graph : Graph) (settings : Settings) : Except Error Text × List LogEvent :=
  match start graph settings with
  | .error found => (.error found, [])
  | .ok (context, draft) =>
    let (result, draft) := (generate context).run.run draft
    (result, draft.log)

def checkLogger : Text := "workflow_codegen.compiler.validate_graph"

def rejectionNotes : Error → List LogEvent
  | .malformed found _ =>
    [{ logger := checkLogger, level := .debug,
       message := "workflow graph rejected with " ++ Text.ofNat found.length ++ " problem(s)" }]
  | _ => []

def checkedGraphNoting (workflow : Workflow) : Except Error Graph × List LogEvent :=
  match Graph.build workflow with
  | .error found => (.error found, [])
  | .ok graph =>
    match validate graph with
    | .error found => (.error found, rejectionNotes found)
    | .ok () => (.ok graph, [])

def generateSource (graph : Graph) (settings : Settings) : Except Error Text :=
  (generateNoting graph settings).1

def compile (payload : Payload) (settings : Settings) : Except Error Text := do
  generateSource (← loadGraph payload) settings

def checkedFileNoting (look : Text → Files.Entry) (path : Text) :
    Except Error Graph × List LogEvent :=
  match Workflow.ofFile look path with
  | .error found => (.error found, [])
  | .ok workflow => checkedGraphNoting workflow

def compileFileNoting (look : Text → Files.Entry) (path : Text) (settings : Settings) :
    Except Error Text × List LogEvent :=
  match checkedFileNoting look path with
  | (.error found, notes) => (.error found, notes)
  | (.ok graph, notes) =>
    let (result, more) := generateNoting graph settings
    (result, notes ++ more)

def compileFile (look : Text → Files.Entry) (path : Text) (settings : Settings) :
    Except Error Text :=
  (compileFileNoting look path settings).1

end AgentFlow
