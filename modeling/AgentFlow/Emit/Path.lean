import AgentFlow.Expr.Scope
import AgentFlow.Module.Builder
import AgentFlow.Statement.Basic

/-!
# What a node emits and what a path knows

Emitting a node gives statements, the name of its result, what the module needs, and compiled
conditions for nodes that branch or gate.  A path through the graph knows the last result on it, the
last text that a guardrail has checked, and the loops that are open.
-/

namespace AgentFlow.Emit

/-- How a node gates the rest of its path: the path goes on when the condition has the given value,
and the fallback is returned otherwise. -/
structure Gate where
  condition : Text
  continueWhen : Bool
  fallback : Option Text := none

structure Emission where
  statements : List Statement := []
  result : Option Text := none
  imports : List Module.Import := []
  declarations : List Module.Declaration := []
  conditions : List Text := []
  gate : Option Gate := none
  checkedText : Option Text := none

structure Path where
  lastResult : Option Text := none
  guardrailText : Option Text := none
  openLoops : List Text := []

namespace Path

def after (path : Path) (emission : Emission) : Path :=
  { path with
    lastResult := emission.result.orElse fun _ => path.lastResult
    guardrailText := emission.checkedText }

def entering (path : Path) (id : Text) : Path :=
  { path with openLoops := path.openLoops ++ [id] }

end Path

def orWorkflow : Option Text → Text
  | some (c :: rest) => c :: rest
  | _ => Expr.workflowRoot

def Path.current (path : Path) : Text := orWorkflow path.lastResult

end AgentFlow.Emit
