import AgentFlow.Emit.Agent
import AgentFlow.Emit.Guardrail
import AgentFlow.Emit.Server

/-!
# Emitting nodes

Every kind of node has its emitter.  What a node emits is added to the module at once.
-/

namespace AgentFlow.Emit

open Workflow

def emission (context : Context) (node : Node) (path : Path) : Build Emission :=
  match node.config with
  | .start => emitStart context
  | .finish config => emitFinish context path node.id config
  | .agent config => emitAgent context node.id config
  | .functionTool call => emitFunctionTool context path node.id call
  | .transform source => emitTransform context path node.id source
  | .setState assignments => emitSetState context path node.id assignments
  | .branch conditions => emitBranch context path node.id conditions
  | .loop condition => emitLoop context path node.id condition
  | .approval message => emitApproval context node.id message
  | .fileSearch search => emitFileSearch context search
  | .mcpTool config => emitServer context config
  | .guardrail config => emitGuardrail context path node.id config

def emitNode (context : Context) (node : Node) (path : Path) : Build Emission := do
  let found ← emission context node path
  absorb found
  return found

def start (graph : Graph) (settings : Settings) : Except Error (Context × Draft) := do
  let reserved := reservedNames settings
  let tools ← collectTools graph
  match tools.find? fun tool => tool.name ∈ reserved || Target.isKeyword tool.name with
  | some tool => .error (.problem (.toolNameClash tool.name))
  | none =>
    let symbols := (tools.map FunctionTool.name).foldl SymbolTable.reserve
      (SymbolTable.ofReserved reserved)
    return ({ graph, settings, tools }, { symbols })

end AgentFlow.Emit
