import AgentFlow.Target.Whitelist

/-!
# What an expression may refer to

An expression sees three roots: the workflow's input record, its state record, and the result of the
node before it on the current path, which is the input record at the start.
-/

namespace AgentFlow.Expr

def workflowRoot : Text := "workflow"

def stateRoot : Text := "state"

def inputRoot : Text := "input"

/-- The names that an expression may refer to at one point of the generated body: the fields of the
two records and what stands for the previous result.  `nodeId` is the node the expression belongs
to. -/
structure Scope where
  inputFields : List Text := []
  stateFields : List Text := []
  inputAlias : Text := workflowRoot
  nodeId : Option Text := none

def Scope.allowedNames (scope : Scope) : List Text :=
  Text.dedup [workflowRoot, stateRoot, scope.inputAlias]

def helpers : List (Text × Text) :=
  [("size", "len"), ("len", "len"), ("string", "str"), ("str", "str"), ("int", "int"),
    ("double", "float"), ("float", "float")]

end AgentFlow.Expr
