import AgentFlow.Proofs.Emit.Steady
import AgentFlow.Proofs.Linear.Secure
import AgentFlow.Proofs.Module.Spliced

/-!
# Compiling without breakdowns

A payload is compiled, or it is refused with an error that is reported, unless it holds one of a few
things that are read or compared without having been checked.
-/

namespace AgentFlow

open Workflow Emit Stoppable
open Schema (Reads)
open Steady (then_ forM)

/-! ## Walking -/

namespace Linear

variable {σ : Type} {graph : Graph} {emit : Emitter σ} {limits : Limits}

/-- A walk through a checked graph stays within the limits that its emitter keeps. -/
theorem linearize_steady (checked : Checked graph)
    (steady : ∀ node ∈ graph.nodes, ∀ path, Steady limits (emit node path)) :
    Steady limits (linearize graph emit) := by
  have keeps : Keeps graph emit limits.allows fun _ => True :=
    fun node known path progress _ _ => ⟨trivial, steady node known path progress.inner⟩
  refine then_ (fun state => ?_) fun _ => .pure _
  exact (survey_safe (fun _ => limits.reported _) keeps checked state trivial).2

end Linear

/-! ## Tools -/

namespace Emit

variable {tool : FunctionTool} {node : Node} {graph : Graph} {context : Context} {limits : Limits}

/-- Definitions of one name are compared within limits. -/
def Compares (limits : Limits) (first second : Node × FunctionTool) : Prop :=
  first.2.name = second.2.name → Within limits (sameSignature first.2 second.2)

theorem compares_of_comparable {first second : Node × FunctionTool}
    (comparable : Comparable first second) : Compares limits first second := by
  intro names
  obtain ⟨writable, writable'⟩ := comparable names
  exact (Within.of_eq_ok (definitionKey_eq_ok_iff.2 ⟨writable, rfl⟩)).bind fun _ _ =>
    (Within.of_eq_ok (definitionKey_eq_ok_iff.2 ⟨writable', rfl⟩)).bind fun _ _ => .ok _

theorem addTool_within {tools : List FunctionTool} (judged : Judges limits (parameterSchema tool))
    (compared : ∀ known ∈ tools, known.name = tool.name →
      Within limits (sameSignature known tool)) : Within limits (addTool node tools tool) := by
  unfold addTool
  split
  · exact (judged _).bind fun _ _ => .ok _
  · next known found =>
      refine Within.bind (compared known (List.mem_of_find?_eq_some found)
        (by simpa using List.find?_some found)) fun same _ => ?_
      split
      · exact .ok _
      · exact .error rfl

/-- What is collected next is compared with what has been collected before. -/
theorem Collected.within {tools : List FunctionTool} {defined more : List (Node × FunctionTool)}
    (collected : Collected tools defined)
    (judged : ∀ definition ∈ more, Judges limits (parameterSchema definition.2))
    (compared : (defined ++ more).Pairwise (Compares limits)) :
    Within limits (more.foldlM
      (fun tools definition => addTool definition.1 tools definition.2) tools) := by
  induction more generalizing tools defined with
  | nil => exact .ok tools
  | cons definition rest ih =>
    obtain ⟨first, others⟩ := List.forall_mem_cons.1 judged
    rw [List.foldlM_cons]
    refine Within.bind (addTool_within first fun known kept names => ?_) fun later added => ?_
    · obtain ⟨node, listed, _⟩ := collected.origin known kept
      exact (List.pairwise_append.1 compared).2.2 _ listed definition List.mem_cons_self names
    · exact ih (collected.add added) others (by rwa [List.append_assoc])

theorem collectTools_within
    (judged : ∀ node ∈ graph.nodes, ∀ tool ∈ toolsOf node, Judges limits (parameterSchema tool))
    (compared : (definitions graph.nodes).Pairwise (Compares limits)) :
    Within limits (collectTools graph) := by
  rw [collectTools_eq]
  refine collected_nil.within (fun definition listed => ?_) compared
  obtain ⟨node, among, used⟩ := mem_definitions_iff.1 (List.mem_map_of_mem listed)
  exact judged node among _ used

theorem start_within (settings : Settings)
    (judged : ∀ node ∈ graph.nodes, ∀ tool ∈ toolsOf node, Judges limits (parameterSchema tool))
    (compared : (definitions graph.nodes).Pairwise (Compares limits)) :
    Within limits (start graph settings) := by
  refine (collectTools_within judged compared).bind fun tools _ => ?_
  split
  · exact .error rfl
  · exact .ok _

theorem prepared_of_start {settings : Settings} {draft : Draft} (valid : validate graph = .ok ())
    (finite : graph.workflow.Finite)
    (reads : ∀ node ∈ graph.nodes, ∀ tool ∈ toolsOf node, Accepted (parameterSchema tool) →
      Reads limits tool.parameters)
    (started : start graph settings = .ok (context, draft)) (listed : node ∈ graph.nodes) :
    context.Prepared limits node := by
  obtain ⟨rfl, collecting, _⟩ := start_eq_ok started
  have collected := collected_of_collectTools collecting
  obtain ⟨names, fields, _⟩ := validate_eq_ok_iff.1 valid
  refine ⟨⟨names, fields⟩, fun tool used => ?_, finite.state⟩
  obtain ⟨known, found, _⟩ :=
    collected.same (mem_definitions_iff.2 ⟨node, listed, used⟩)
  obtain ⟨_, defined, accepted⟩ := collected.origin known (List.mem_of_find?_eq_some found)
  obtain ⟨node, among, used⟩ := mem_definitions_iff.1 (List.mem_map_of_mem defined)
  have same : toolNamed context tool = known := by
    rw [toolNamed, found]
    rfl
  rw [same]
  exact reads node among known used ⟨_, accepted⟩

/-! ## Generating -/

theorem declare_steady (declaration : Module.Declaration) :
    Steady limits (declare declaration) := by
  intro draft
  unfold declare
  rw [get_bind_run]
  cases draft.module.declare declaration with
  | some later => exact .ok ()
  | none => exact .error rfl

theorem absorb_steady (emission : Emission) : Steady limits (absorb emission) :=
  (forM fun _ _ => fun _ => .ok ()).then_ fun _ => .forM fun _ _ => declare_steady _

theorem notingEmitter_steady (prepared : context.Prepared limits node)
    (suits : Suits limits node.config) (finite : node.config.Finite) (path : Path) :
    Steady limits (notingEmitter context node path) :=
  then_ (fun _ => .ok ()) fun _ => (emission_steady prepared suits finite path).then_
    fun emission => (absorb_steady emission).then_ fun _ => .pure _

end Emit

namespace Module

variable {limits : Limits}

theorem inputFields_steady (required : List Json) (properties : Entries) :
    Steady limits (inputFields required properties) := by
  induction properties with
  | nil => exact .pure _
  | cons property rest ih =>
    obtain ⟨name, schema⟩ := property
    unfold inputFields
    split
    · dsimp only
      split
      · exact then_ (fun _ => .ok ()) fun _ => ih.then_ fun _ => .pure _
      · exact ih.then_ fun _ => .pure _
    · exact .throw rfl

theorem assemble_steady {context : Context} (body : Statement)
    (reads : Reads limits context.graph.workflow.inputSchema) :
    Steady limits (assemble context body) := by
  have record : Steady limits (inputClass context) :=
    (liftError_steady reads.required).then_ fun _ => (liftError_steady reads.properties).then_
      fun _ => (inputFields_steady _ _).then_ fun _ => .pure _
  exact record.then_ fun _ => (forM fun _ _ => fun _ => .ok ()).then_
    fun _ => then_ (fun _ => .ok _) fun _ => .pure _

end Module

/-- Nothing in a workflow makes its compilation break down. -/
structure Workflow.Sturdy (workflow : Workflow) : Prop where
  fields : ∃ keys, (workflow.inputSchema.getOr "properties" (.obj [])).dictionaryKeys = .ok keys
  schema : Judged (.obj workflow.inputSchema)
  input : Accepted (.obj workflow.inputSchema) → Schema.Legible workflow.inputSchema
  tools : ∀ node ∈ workflow.nodes, ∀ tool ∈ toolsOf node, Judged (parameterSchema tool)
  parameters : ∀ node ∈ workflow.nodes, ∀ tool ∈ toolsOf node, Accepted (parameterSchema tool) →
    Schema.Legible tool.parameters
  comparable : (definitions workflow.nodes).Pairwise Comparable
  nodes : ∀ node ∈ workflow.nodes, node.config.Sturdy

variable {graph : Graph} {workflow : Workflow} {limits : Limits}

/-- What can break down in a workflow stays within limits. -/
structure Workflow.Suits (limits : Limits) (workflow : Workflow) : Prop where
  fields : ∀ graph : Graph, graph.workflow = workflow →
    Within limits (liftShape graph.inputFieldNames)
  schema : Judges limits (.obj workflow.inputSchema)
  input : Accepted (.obj workflow.inputSchema) → Reads limits workflow.inputSchema
  tools : ∀ node ∈ workflow.nodes, ∀ tool ∈ toolsOf node, Judges limits (parameterSchema tool)
  parameters : ∀ node ∈ workflow.nodes, ∀ tool ∈ toolsOf node, Accepted (parameterSchema tool) →
    Reads limits tool.parameters
  compared : (definitions workflow.nodes).Pairwise (Compares limits)
  nodes : ∀ node ∈ workflow.nodes, Emit.Suits limits node.config

theorem Workflow.Sturdy.suits (sturdy : workflow.Sturdy) : workflow.Suits .strict where
  fields graph same := by
    refine .liftShape ?_
    rw [Graph.inputFieldNames, Graph.inputFields, same]
    simpa only [Except.exists_bind_eq_ok, Except.exists_pure_eq_ok, and_true] using sturdy.fields
  schema := sturdy.schema
  input accepted := (sturdy.input accepted).reads
  tools := sturdy.tools
  parameters node listed tool used accepted :=
    (sturdy.parameters node listed tool used accepted).reads
  compared := sturdy.comparable.imp compares_of_comparable
  nodes node listed := suits_of_sturdy (sturdy.nodes node listed)

theorem checkedGraph_within (suits : workflow.Suits limits) :
    Within limits (checkedGraph workflow) := by
  unfold checkedGraph Graph.build
  split
  · next distinct =>
      show Within limits (validate ⟨workflow, distinct⟩ >>= fun _ => pure _)
      refine Within.bind (Within.bind (suits.fields _ rfl) fun fields _ => ?_) fun _ _ => .ok _
      split
      · exact suits.schema _
      · exact .error rfl
  · exact .error rfl

theorem generateSource_within (settings : Settings) (valid : validate graph = .ok ())
    (finite : graph.workflow.Finite) (suits : graph.workflow.Suits limits) :
    Within limits (generateSource graph settings) := by
  have starting := start_within settings suits.tools suits.compared
  unfold generateSource generateNoting
  cases started : start graph settings with
  | error found => exact .stop (starting found started)
  | ok begun =>
    obtain ⟨context, draft⟩ := begun
    obtain ⟨_, _, _, accepted⟩ := validate_eq_ok_iff.1 valid
    have same := (start_eq_ok started).1
    subst same
    have walking : Steady limits (body context) :=
      Linear.linearize_steady (checked_of_validate valid) fun node listed path =>
        notingEmitter_steady (prepared_of_start valid finite suits.parameters started listed)
          (suits.nodes node listed) (finite.nodes node listed) path
    have generating : Steady limits (generate context) := walking.then_ fun block =>
      (Module.assemble_steady _ (suits.input ⟨_, accepted⟩)).then_ fun _ =>
        then_ (fun _ => .ok _) fun _ => then_ (fun _ => .ok ()) fun _ => .pure _
    exact generating draft

namespace Workflow.Payload

/-- The integers of a payload have no more digits than can be read or written, and bytes have an
encoding. -/
def Legible : Payload → Prop
  | .value given => given.isWritable = true
  | .text source => ∀ count, Json.read source ≠ .error (.tooManyDigits count)
  | .bytes encoded => ∃ source, encoded.document = .ok source ∧
    ∀ count, Json.readDecoded source ≠ .error (.tooManyDigits count)

/-- Nothing in a payload makes its compilation break down. -/
structure Sturdy (payload : Payload) : Prop where
  legible : payload.Legible
  workflow : ∀ workflow, payload.workflow = .ok workflow → workflow.Sturdy

variable {payload : Payload}

theorem ofJson_unbroken (value : Json) : Within limits (ofJson value) := by
  unfold ofJson
  split
  · refine Within.bind ?_ fun _ _ => ?_
    · unfold checkKinds
      split
      · split
        · exact .error rfl
        · exact .ok ()
      · exact .ok ()
    · split
      · split
        · exact .ok _
        · exact .error rfl
      · exact .error rfl
  · exact .error rfl

theorem finite_of_workflow {workflow : Workflow} (read : payload.workflow = .ok workflow) :
    workflow.Finite := by
  obtain ⟨value, _, decoded⟩ := Except.bind_eq_ok.1 read
  exact finite_of_ofJson decoded

end Workflow.Payload

end AgentFlow
