import AgentFlow.Emit.Draft
import AgentFlow.Workflow.Validate

/-!
# Emitting control nodes

Start, end, branches, loops and approvals.  The shape of the control flow is built elsewhere; here
are the compiled conditions and the statements that run at the node itself.
-/

namespace AgentFlow.Emit

open Workflow

/-- The initial value of a state variable: lists start empty. -/
def initialValue (declared : StateVariable) : Literal :=
  if declared.type = some .list then .list [] else Literal.ofJson declared.default

def inputText (context : Context) : Text :=
  Expr.workflowRoot ++ "[" ++ context.graph.workflow.inputTextField.doubleQuoted ++ "]"

/-- The conversation at the start: the text of the input as a message of the user. -/
def initialHistory (context : Context) : Literal :=
  .list [.dict [("role", .scalar (.str "user")),
    ("content", .list [.dict [("type", .scalar (.str "input_text")),
      ("text", .code (inputText context))]])]]

def emitStart (context : Context) : Build Emission := do
  let initial ← liftError (layout context (.dict (context.graph.workflow.state.map
    fun (name, declared) => (name, initialValue declared))))
  let conversation ← liftError (layout context (initialHistory context))
  return { statements :=
             [.raw (assignmentLines Expr.stateRoot initial),
              .raw [Expr.workflowRoot ++ " = " ++ workflowInput ++ ".model_dump()"],
              .raw (assignmentLines (history ++ ": list[TResponseInputItem]") conversation)]
           imports := [⟨"agents", "TResponseInputItem"⟩] }

/-- Sets a key of a record, a known one keeping its place. -/
def setKey (record : List (Text × Literal)) (key : Text) (value : Literal) :
    List (Text × Literal) :=
  if record.any (·.1 = key) then
    record.map fun entry => if entry.1 = key then (key, value) else entry
  else record ++ [(key, value)]

def schemaKeys (id : Text) (schema : Option Entries) : Except Error (List Text) :=
  match schema with
  | some (entry :: rest) => do
    checkSchema (.obj (entry :: rest)) (id ++ ".output_schema")
    let properties ← liftShape (Entries.getOr (entry :: rest) "properties" (.obj [])).entries
    return properties.keys
  | _ => .ok []

/-- Emits an end: it returns a record where the node describes one, and the last result otherwise.
-/
def emitFinish (context : Context) (path : Path) (id : Text) (config : FinishConfig) :
    Build Emission := do
  if config.output.isEmpty && (config.schema.getD []).isEmpty then
    return { statements := [.ret path.current] }
  else
    let keys ← liftError (schemaKeys id config.schema)
    let values ← liftError (config.output.mapM fun (key, source) => do
      return (key, Literal.code (← expression context source path id)))
    let record := values.foldl (fun record (key, value) => setKey record key value)
      (keys.map (·, .scalar .null))
    let result ← allocate "end_result"
    let source ← liftError (layout context (.dict record))
    return { statements := [.raw (assignmentLines result source), .ret result]
             result := some result }

def emitBranch (context : Context) (path : Path) (id : Text) (conditions : List Text) :
    Build Emission := do
  let compiled ← liftError (conditions.mapM fun condition => expression context condition path id)
  return { conditions := compiled }

def emitLoop (context : Context) (path : Path) (id : Text) (condition : Text) :
    Build Emission := do
  return { conditions := [← liftError (expression context condition path id)] }

/-- Emits an approval: a function that asks, which is to be replaced, and a call of it. -/
def emitApproval (context : Context) (id : Text) (message : Text) : Build Emission := do
  let unit := context.unit
  let stub ← allocate "approval_request"
  let asked ← allocate "approval_message"
  return { statements := [.raw [asked ++ " = " ++ message.doubleQuoted, []]]
           declarations :=
             [{ key := "approval:" ++ id
                group := .tools
                lines := [("def " ++ stub ++ "(message: str):" : Text),
                  unit ++ "# Replace with a real approval prompt; approves by default.",
                  unit ++ "return True", []] }]
           gate := some { condition := stub ++ "(" ++ asked ++ ")", continueWhen := true } }

/-! ## Emitting data nodes

A transform computes a value from an expression; a node that sets state assigns expressions to state
variables, in order.
-/

/-- Emits a transform; without an expression its value is an empty record. -/
def emitTransform (context : Context) (path : Path) (id : Text) (source : Text) :
    Build Emission := do
  let value : Text ← if source.isBlank then pure ("\x7b\x7d" : Text)
    else liftError (expression context source path id)
  let result ← allocate "transform_result"
  return { statements := [.raw [result ++ " = " ++ value]], result := some result }

/-- The line of an assignment; one without an expression has none. -/
def assignmentLine? (context : Context) (path : Path) (id : Text) (assignment : Assignment) :
    Except Error (Option Text) :=
  if assignment.expression.isBlank then .ok none
  else if assignment.name ∉ context.graph.workflow.state.map Prod.fst then
    .error (.expression (.undeclaredState assignment.name) (some assignment.expression) (some id))
  else do
    let value ← expression context assignment.expression path id
    return some (Expr.stateRoot ++ "[" ++ assignment.name.doubleQuoted ++ "] = " ++ value)

def emitSetState (context : Context) (path : Path) (id : Text) (assignments : List Assignment) :
    Build Emission := do
  let lines ← liftError (assignments.mapM (assignmentLine? context path id))
  let lines := lines.filterMap fun line => line
  return { statements := if lines.isEmpty then [] else [.raw lines] }

end AgentFlow.Emit
