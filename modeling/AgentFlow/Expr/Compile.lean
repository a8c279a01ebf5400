import AgentFlow.Expr.Parser
import AgentFlow.Expr.Render

/-!
# Compiling expressions

An expression is read, written in the generated language, and the result is read back and checked
against the safe part of that language.
-/

namespace AgentFlow.Expr

def checkCompiled (rendered : Text) (allowed : List Text) : Except Fault Unit :=
  match Target.checkText rendered allowed with
  | .ok () => .ok ()
  | .error why => .error (.rejected rendered why)

def compile (source : Text) (scope : Scope) : Except Failure Text :=
  if source.isBlank then .error (.fault .empty)
  else
    match parse source with
    | .error failure => .error failure
    | .ok tree =>
      match render scope tree with
      | .error fault => .error (.fault fault)
      | .ok rendered =>
        match checkCompiled rendered.text scope.allowedNames with
        | .error fault => .error (.fault fault)
        | .ok () => .ok rendered.text

end AgentFlow.Expr
