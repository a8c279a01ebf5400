import AgentFlow.Compile
import AgentFlow.Proofs.Stoppable

/-!
# What emitters compute without a draft

Emitters compile expressions, lay out literals and check schemas.  Given the id of another node,
such a computation returns the same value, or an error again, and never an error that only a fault
of the compiler could cause.  Both facts are one relation between results.
-/

namespace AgentFlow

/-! ## Internal errors -/

/-- Whether a problem can only come from the compiler itself: a look-up of a node that does not
exist, or two different declarations under one key. -/
def Problem.isInternal : Problem → Bool
  | .unknownNode _ => true
  | .conflictingDeclaration _ => true
  | _ => false

/-- Whether an error can only come from the compiler itself. -/
def Error.isInternal : Error → Bool
  | .malformed problems _ => problems.any Problem.isInternal
  | .unknownKind _ _ => true
  | _ => false

/-- Results agree: they are the same value, or errors of which none is internal. -/
inductive Agree {α : Type} : Except Error α → Except Error α → Prop
  | ok (value : α) : Agree (.ok value) (.ok value)
  | error {found other : Error} (external : found.isInternal = false)
      (external' : other.isInternal = false) : Agree (.error found) (.error other)

namespace Agree

variable {α β : Type} {first second : Except Error α} {next next' : α → Except Error β}

theorem bind (agree : Agree first second) (rest : ∀ value, Agree (next value) (next' value)) :
    Agree (first >>= next) (second >>= next') := by
  cases agree with
  | ok value => exact rest value
  | error external external' => exact .error external external'

theorem pure (value : α) : Agree (Pure.pure value) (Pure.pure value) := .ok value

theorem mapM {work work' : α → Except Error β} (each : ∀ item, Agree (work item) (work' item))
    (items : List α) : Agree (items.mapM work) (items.mapM work') := by
  induction items with
  | nil => exact .pure []
  | cons item rest ih =>
    rw [List.mapM_cons, List.mapM_cons]
    exact .bind (each item) fun _ => .bind ih fun _ => .pure _

theorem eq_ok {value : α} (agree : Agree first second) (returned : first = .ok value) :
    second = .ok value := by
  cases agree with
  | ok other => exact returned
  | error => cases returned

end Agree

theorem liftShape_agree {α : Type} (result : Except ShapeFault α) :
    Agree (liftShape result) (liftShape result) := by
  cases result with
  | ok value => exact .ok value
  | error fault => exact .error rfl rfl

/-! ## Schemas -/

theorem checkSchema_agree (value : Json) (place place' : Text) :
    Agree (checkSchema value place) (checkSchema value place') := by
  unfold checkSchema
  split
  · refine .bind (liftShape_agree _) fun dialect => ?_
    split
    · exact .error rfl rfl
    · exact .error rfl rfl
    · exact .ok ()
  · exact .error rfl rfl

namespace Schema

variable (place place' : Text)

mutual

theorem typed_agree (name : Text) (schema : Json) :
    Agree (typed place name schema) (typed place' name schema) := by
  rw [typed.eq_def, typed.eq_def place']
  match schema with
  | .obj entries =>
    dsimp only
    split
    · exact recordClass_agree name entries
    · split
      · split
        · rename_i items found
          have smaller : 1 + sizeOf items < sizeOf entries := by simpa using lookup_lt found
          exact .bind (typed_agree name (.obj items)) fun _ => .pure _
        · exact .ok _
      · exact .ok _
  | .null | .bool _ | .int _ | .float _ | .str _ | .arr _ => exact .ok _
termination_by (sizeOf schema, 0)

theorem recordClass_agree (name : Text) (schema : Entries) :
    Agree (recordClass place name schema) (recordClass place' name schema) := by
  rw [recordClass, recordClass]
  refine .bind (liftShape_agree _) fun required => ?_
  split
  · exact .pure _
  · rename_i properties found
    have smaller : 1 + sizeOf properties < sizeOf schema := by simpa using ownProperties?_lt found
    exact .bind (fieldsOf_agree name required properties) fun _ => .pure _
  · exact .error rfl rfl
termination_by (sizeOf schema, 1)

theorem fieldsOf_agree (className : Text) (required : List Json) (properties : Entries) :
    Agree (fieldsOf place className required properties)
      (fieldsOf place' className required properties) := by
  rw [fieldsOf.eq_def, fieldsOf.eq_def place']
  match properties with
  | [] => exact .ok _
  | (name, schema) :: rest =>
    dsimp only
    split
    · exact .bind (typed_agree _ schema) fun _ =>
        .bind (fieldsOf_agree className required rest) fun _ => .pure _
    · exact .error rfl rfl
termination_by (sizeOf properties, 0)

end

end Schema

/-! ## Expressions -/

namespace Expr

variable (scope : Scope) (id : Option Text)

mutual

theorem render_nodeId : ∀ tree, render { scope with nodeId := id } tree = render scope tree
  | .literal (.decimal _) => rfl
  | .literal .null | .literal (.bool _) | .literal (.integer _) | .literal (.string _) => rfl
  | .name _ => rfl
  | .member target _ => by
    rw [render, render, render_nodeId target]
    rfl
  | .call _ arguments => by
    rw [render, render]
    match arguments with
    | [argument] => simp only [render_nodeId argument]
    | [] => rfl
    | _ :: _ :: _ => rfl
  | .unary _ operand => by rw [render, render, render_nodeId operand]
  | .index left right | .binary _ left right | .compare _ left right | .logical .and left right
  | .logical .or left right => by
    rw [render, render, render_nodeId left, render_nodeId right]
  | .list items => by rw [render, render, renderItems_nodeId items]
  | .object entries => by rw [render, render, renderEntries_nodeId entries]

theorem renderItems_nodeId :
    ∀ items, renderItems { scope with nodeId := id } items = renderItems scope items
  | [] => rfl
  | item :: rest => by
    rw [renderItems, renderItems, render_nodeId item, renderItems_nodeId rest]

theorem renderEntries_nodeId :
    ∀ entries, renderEntries { scope with nodeId := id } entries = renderEntries scope entries
  | [] => rfl
  | (_, value) :: rest => by
    rw [renderEntries, renderEntries, render_nodeId value, renderEntries_nodeId rest]

end

theorem compile_nodeId (source : Text) :
    compile source { scope with nodeId := id } = compile source scope := by
  simp only [compile, render_nodeId, Scope.allowedNames]

end Expr

namespace Emit

open Workflow

/-- Tools are the same function: they agree in name, description and, up to the order of its keys,
the schema of the parameters. -/
structure SameTool (tool other : FunctionTool) : Prop where
  name : tool.name = other.name
  description : tool.description = other.description
  sorted : sortedParameters tool = sortedParameters other

/-- Contexts say the same to emitters. -/
structure Context.Alike (context other : Context) : Prop where
  settings : context.settings = other.settings
  inputSchema : context.graph.workflow.inputSchema = other.graph.workflow.inputSchema
  inputTextField : context.graph.workflow.inputTextField = other.graph.workflow.inputTextField
  state : context.graph.workflow.state = other.graph.workflow.state
  tools : ∀ tool, SameTool (toolNamed context tool) (toolNamed other tool)

theorem Context.Alike.refl (context : Context) : context.Alike context :=
  ⟨rfl, rfl, rfl, rfl, fun _ => ⟨rfl, rfl, rfl⟩⟩

section Alike

variable {context other : Context} (alike : context.Alike other) (path : Path) (id id' : Text)
include alike

theorem unit_eq : context.unit = other.unit := by
  unfold Context.unit
  rw [alike.settings]

theorem expression_agree (source : Text) :
    Agree (expression context source path id) (expression other source path id') := by
  have fields : context.graph.inputFieldNames = other.graph.inputFieldNames := by
    unfold Graph.inputFieldNames Graph.inputFields
    rw [alike.inputSchema]
  have read : ∀ names : List Text,
      Agree
        (compiled source ⟨names, other.graph.workflow.state.map Prod.fst, path.current, some id⟩)
        (compiled source ⟨names, other.graph.workflow.state.map Prod.fst, path.current,
          some id'⟩) := by
    intro names
    have same := Expr.compile_nodeId
      ⟨names, other.graph.workflow.state.map Prod.fst, path.current, some id⟩ (some id') source
    unfold compiled
    rw [same]
    split
    · exact .ok _
    · rename_i failure _
      cases failure <;> exact .error rfl rfl
  unfold expression scope
  rw [fields, alike.state]
  cases other.graph.inputFieldNames with
  | ok names => exact read names
  | error fault => exact .error rfl rfl

theorem callArguments_agree (tool : Text) (names : List Text) (arguments : List (Text × Text)) :
    Agree (callArguments context path id tool names arguments)
      (callArguments other path id' tool names arguments) := by
  induction arguments with
  | nil => exact .ok _
  | cons argument rest ih =>
    obtain ⟨name, source⟩ := argument
    rw [callArguments, callArguments]
    split
    · exact .bind (expression_agree alike path id id' source) fun _ => .bind ih fun _ => .pure _
    · exact .error rfl rfl

theorem assignmentLine?_agree (assignment : Assignment) :
    Agree (assignmentLine? context path id assignment)
      (assignmentLine? other path id' assignment) := by
  unfold assignmentLine?
  rw [alike.state]
  split
  · exact .ok _
  · split
    · exact .error rfl rfl
    · exact .bind (expression_agree alike path id id' _) fun _ => .pure _

theorem guardrailSource_agree (config : GuardrailConfig) :
    Agree (guardrailSource context path id config) (guardrailSource other path id' config) := by
  have text : inputText context = inputText other := by
    unfold inputText
    rw [alike.inputTextField]
  unfold guardrailSource
  rw [text]
  split
  · split
    · exact .ok _
    · exact expression_agree alike path id id' _
  · exact .ok _

/-! ## Literals and calls -/

theorem layout_agree (literal : Literal) :
    Agree (layout context literal) (layout other literal) := by
  unfold layout
  rw [unit_eq alike]
  split
  · exact .ok _
  · exact .error rfl rfl

theorem transportArguments_agree (config : ServerConfig) :
    Agree (transportArguments context config) (transportArguments other config) := by
  unfold transportArguments
  split
  · exact .bind (layout_agree alike _) fun _ => .pure _
  · dsimp only
    split
    · exact .pure _
    · exact .bind (layout_agree alike _) fun _ => .pure _

theorem webSearchDeclaration_agree (symbol : Text) (tool : WebSearch) :
    Agree (webSearchDeclaration context symbol tool) (webSearchDeclaration other symbol tool) := by
  unfold webSearchDeclaration
  rw [unit_eq alike]
  exact .bind (layout_agree alike _) fun _ => .pure _

theorem reasoningCall_eq (config : AgentConfig) :
    reasoningCall context config = reasoningCall other config := by
  unfold reasoningCall
  rw [alike.settings, unit_eq alike]

theorem agentCall_agree (config : AgentConfig) (sources : List Text)
    (answer : Option Schema.Typed) :
    Agree (agentCall context config sources answer) (agentCall other config sources answer) := by
  unfold agentCall
  rw [alike.settings, unit_eq alike, reasoningCall_eq alike]
  dsimp only
  split
  · exact .pure _
  · exact .bind (layout_agree alike _) fun _ => .pure _

theorem runLines_agree (config : AgentConfig) (agent temporary result : Text)
    (structured : Bool) :
    Agree (runLines context config agent temporary result structured)
      (runLines other config agent temporary result structured) := by
  unfold runLines
  rw [unit_eq alike]
  exact .bind (layout_agree alike _) fun _ => .bind (layout_agree alike _) fun _ => .pure _

end Alike

theorem schemaKeys_agree (id id' : Text) (schema : Option Entries) :
    Agree (schemaKeys id schema) (schemaKeys id' schema) := by
  unfold schemaKeys
  split
  · exact .bind (checkSchema_agree _ _ _) fun _ => .bind (liftShape_agree _) fun _ => .pure _
  · exact .ok _

theorem policyEntry_agree (policy : Policy) : Agree (policyEntry policy) (policyEntry policy) := by
  unfold policyEntry
  dsimp only
  split
  · exact .bind (liftShape_agree _) fun _ => .pure _
  · split
    · exact .bind (liftShape_agree _) fun _ => .pure _
    · split
      · exact .pure _
      · exact .pure _

/-! ## Function tools -/

theorem parametersOf_agree (tool : Text) (required : List Json) (properties : Entries) :
    Agree (parametersOf tool required properties) (parametersOf tool required properties) := by
  induction properties with
  | nil => exact .ok _
  | cons property rest ih =>
    rw [parametersOf]
    split
    · exact .error rfl rfl
    · exact .bind ih fun _ => .pure _

theorem parameters_agree (tool : FunctionTool) : Agree (parameters tool) (parameters tool) :=
  .bind (liftShape_agree _) fun _ => .bind (liftShape_agree _) fun _ =>
    .bind (parametersOf_agree _ _ _) fun _ => .pure _

theorem toolDeclaration_agree (tool : FunctionTool) (unit : Text) :
    Agree (toolDeclaration tool unit) (toolDeclaration tool unit) :=
  .bind (parameters_agree tool) fun _ => .pure _

theorem toolImports_agree (tool : FunctionTool) : Agree (toolImports tool) (toolImports tool) := by
  refine .bind (parameters_agree tool) fun found => ?_
  split
  · exact .pure _
  · exact .pure _

end Emit

end AgentFlow
