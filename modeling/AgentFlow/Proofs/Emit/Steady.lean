import AgentFlow.Proofs.Emit.Fitting
import AgentFlow.Proofs.Emit.SameTools
import AgentFlow.Proofs.Expr.Compiled
import AgentFlow.Proofs.Schema.Legible
import AgentFlow.Proofs.Symbol.Numbered
import AgentFlow.Proofs.Workflow.Finite

/-!
# Emitters that do not break down

Five things in a node can make an emitter break down: a number in an expression that has no value, a
schema that the check cannot judge, an accepted schema with keywords that cannot be read, a name
from which no symbol can be made, and a setting that is read as a list and is none.
-/

namespace AgentFlow

open List
open Literal (hasLayout_dict hasLayout_list hasLayout_ofJson hasLayout_str hasLayout_code dict
  ofEntries ofJson)

/-- The check of a schema comes to a verdict. -/
def Judged (schema : Json) : Prop := ∀ place, Unbroken (checkSchema schema place)

/-- The check of a schema finds nothing. -/
def Accepted (schema : Json) : Prop := ∃ place, checkSchema schema place = .ok ()

namespace Workflow

def Config.expressions : Config → List Text
  | .finish config => config.output.map Prod.snd
  | .functionTool call => call.arguments.map Prod.snd
  | .transform source => [source]
  | .setState assignments => assignments.map Assignment.expression
  | .branch conditions => conditions
  | .loop condition => [condition]
  | .guardrail config => config.input.toList
  | _ => []

/-- A schema that is there and has entries. -/
def givenSchema : Option Entries → List Json
  | some (entry :: rest) => [.obj (entry :: rest)]
  | _ => []

/-- The schema of an agent's answer, if it is to be data. -/
def OutputFormat.given (format : OutputFormat) : List Json :=
  if format.structured then givenSchema format.schema else []

def Config.schemas : Config → List Json
  | .finish config => givenSchema config.schema
  | .agent config => config.outputFormat.given
  | _ => []

/-- The schemas of a node can be read once they are accepted: that of a result has properties, and
all objects of that of an answer are legible. -/
def Config.Legible : Config → Prop
  | .finish config => ∀ schema, .obj schema ∈ givenSchema config.schema → Accepted (.obj schema) →
    Schema.ListsProperties schema
  | .agent config => ∀ schema, .obj schema ∈ config.outputFormat.given → Accepted (.obj schema) →
    ∀ place record, Schema.Reached schema place record → Schema.Legible record
  | _ => True

/-- The texts of a node from which names are made. -/
def Config.bases : Config → List Text
  | .agent config => config.outputFormat.given.map fun _ => Schema.pascal config.name ++ "Schema"
  | _ => []

def Policy.lists (policy : Policy) : List Json :=
  if policy.kind = "moderation" then [policy.config.getOr "categories" (.arr [])]
  else if policy.kind = "pii" then [policy.config.getOr "entities" (.arr [])]
  else []

def Config.lists : Config → List Json
  | .guardrail config => config.policies.flatMap Policy.lists
  | _ => []

/-- All numbers of an expression have a value. -/
def HasNumerals (source : Text) : Prop := ∀ fault, Expr.tokenize source ≠ .error (.numeral fault)

/-- Nothing in a node makes its emitter break down. -/
structure Config.Sturdy (config : Config) : Prop where
  numerals : ∀ source ∈ config.expressions, source.isBlank = false → HasNumerals source
  schemas : ∀ schema ∈ config.schemas, Judged schema
  legible : config.Legible
  bases : ∀ base ∈ config.bases, SymbolTable.isBase base = true
  lists : ∀ value ∈ config.lists, ∃ items, value.items = .ok items

end Workflow

namespace Emit

open Workflow Stoppable
open Schema (Reads)

/-- What is known of a context before a node is emitted: the fields of the input are known, the
parameters of the node's tools are read within limits, and the numbers of the state are finite. -/
structure Context.Prepared (limits : Limits) (context : Context) (node : Node) : Prop where
  fields : ∃ names, context.graph.inputFieldNames = .ok names
  tools : ∀ tool ∈ toolsOf node, Reads limits (toolNamed context tool).parameters
  state : ∀ declared ∈ context.graph.workflow.state, declared.2.default.Everywhere Json.IsFinite

variable {context : Context} {path : Path} {id source unit : Text} {node : Node}
  {tool : FunctionTool} {property : Literal → Prop} {config : AgentConfig} {entries : Entries}
  {policy : Policy} {limits : Limits}

/-! ## What emitters compute without a draft -/

theorem layout_within {literal : Literal} (laid : literal.HasLayout context.unit) :
    Within limits (layout context literal) := by
  obtain ⟨source, written⟩ := laid
  rw [layout, written]
  exact .ok source

theorem compiled_unbroken {scope : Expr.Scope}
    (numerals : source.isBlank = false → HasNumerals source) :
    Unbroken (compiled source scope) := by
  intro found failed
  rw [compiled] at failed
  split at failed
  · cases failed
  · next failure stopped =>
      obtain ⟨fault, rfl⟩ : ∃ fault, failure = .fault fault := by
        by_cases blank : source.isBlank = true
        · simp only [Expr.compile, blank, if_true] at stopped
          cases stopped
          exact ⟨_, rfl⟩
        · exact Expr.fault_of_compile (numerals (by simpa using blank)) stopped
      cases failed
      rfl

/-- An expression is compiled within limits, whatever stands in its scope. -/
def Readable (limits : Limits) (source : Text) : Prop :=
  ∀ scope, Within limits (compiled source scope)

/-- The verdict on a schema stays within limits. -/
def Judges (limits : Limits) (schema : Json) : Prop :=
  ∀ place, Within limits (checkSchema schema place)

/-- The schemas of a node are read within limits once they are accepted. -/
def ReadsSchemas (limits : Limits) : Config → Prop
  | .finish config => ∀ schema : Entries, .obj schema ∈ givenSchema config.schema →
    Accepted (.obj schema) →
      Within limits (liftShape (schema.getOr "properties" (.obj [])).entries)
  | .agent config => ∀ schema, .obj schema ∈ config.outputFormat.given → Accepted (.obj schema) →
    ∀ place record, Schema.Reached schema place record → Reads limits record
  | _ => True

/-- What can break down in a node stays within limits. -/
structure Suits (limits : Limits) (config : Config) : Prop where
  expressions : ∀ source ∈ config.expressions, Readable limits source
  schemas : ∀ schema ∈ config.schemas, Judges limits schema
  reads : ReadsSchemas limits config
  bases : ∀ base ∈ config.bases, Steady limits (allocate base)
  lists : ∀ value ∈ config.lists, Within limits (liftShape value.items)

theorem readsSchemas_of_legible {config : Config} (legible : config.Legible) :
    ReadsSchemas limits config := by
  cases config with
  | finish config =>
    exact fun schema given accepted =>
      .liftShape (Schema.exists_entries_iff.2 (legible schema given accepted))
  | agent config =>
    exact fun schema given accepted place record reached =>
      (legible schema given accepted place record reached).reads
  | _ => trivial

theorem suits_of_sturdy {config : Config} (sturdy : config.Sturdy) : Suits .strict config where
  expressions source listed _ := compiled_unbroken (sturdy.numerals source listed)
  schemas := sturdy.schemas
  reads := readsSchemas_of_legible sturdy.legible
  bases base listed := allocate_steady (sturdy.bases base listed)
  lists value listed := .liftShape (sturdy.lists value listed)

theorem expression_within (fields : ∃ names, context.graph.inputFieldNames = .ok names)
    (readable : Readable limits source) :
    Within limits (expression context source path id) := by
  refine Within.bind ?_ fun scope _ => readable scope
  exact (Within.liftShape fields).bind fun _ _ => .ok _

/-! ## Function tools -/

theorem parametersOf_within (tool : Text) (required : List Json) (properties : Entries) :
    Within limits (parametersOf tool required properties) := by
  induction properties with
  | nil => exact .ok []
  | cons property rest ih =>
    obtain ⟨name, schema⟩ := property
    unfold parametersOf
    split
    · exact .error rfl
    · exact ih.bind fun _ _ => .ok _

/-- The parameters of a tool with a schema that can be read, or a name that cannot be one. -/
theorem parameters_within (reads : Reads limits tool.parameters) :
    Within limits (parameters tool) :=
  reads.required.bind fun _ _ => reads.properties.bind fun _ _ =>
    (parametersOf_within _ _ _).bind fun _ _ => .ok _

theorem toolDeclaration_within (known : Within limits (parameters tool)) (unit : Text) :
    Within limits (toolDeclaration tool unit) := known.bind fun _ _ => .ok _

theorem toolImports_within (known : Within limits (parameters tool)) :
    Within limits (toolImports tool) := by
  refine known.bind fun _ _ => ?_
  split
  · exact .ok _
  · exact .ok _

theorem callArguments_within (fields : ∃ names, context.graph.inputFieldNames = .ok names)
    (tool : Text) (names : List Text) {arguments : List (Text × Text)}
    (readable : ∀ source ∈ arguments.map Prod.snd, Readable limits source) :
    Within limits (callArguments context path id tool names arguments) := by
  induction arguments with
  | nil => exact .ok []
  | cons argument rest ih =>
    obtain ⟨name, source⟩ := argument
    obtain ⟨first, others⟩ := forall_mem_cons.1 readable
    unfold callArguments
    split
    · exact (expression_within fields first).bind fun _ _ => (ih others).bind fun _ _ => .ok _
    · exact .error rfl

theorem emitFunctionTool_steady {call : FunctionCall} (isCall : node.config = .functionTool call)
    (prepared : context.Prepared limits node) (suits : Suits limits node.config) :
    Steady limits (emitFunctionTool context path id call) := by
  have used : call.tool ∈ toolsOf node := by simp [toolsOf, isCall]
  have known : Within limits _ := parameters_within (prepared.tools _ used)
  have readable := suits.expressions
  rw [isCall] at readable
  refine (liftError_steady known).then_ fun _ => ?_
  refine (liftError_steady (callArguments_within prepared.fields _ _ readable)).then_ fun _ => ?_
  refine (allocate_steady (by decide)).then_ fun _ => ?_
  refine (liftError_steady (toolDeclaration_within known _)).then_ fun _ => ?_
  exact (liftError_steady (toolImports_within known)).then_ fun _ => .pure _

/-! ## Control nodes -/

theorem emitStart_steady (prepared : context.Prepared limits node) :
    Steady limits (emitStart context) := by
  refine (liftError_steady (layout_within (hasLayout_dict fun entry listed => ?_))).then_
    fun _ => (liftError_steady (layout_within ?_)).then_ fun _ => .pure _
  · obtain ⟨declared, among, rfl⟩ := mem_map.1 listed
    dsimp only [initialValue]
    split
    · exact hasLayout_list nofun
    · exact hasLayout_ofJson _ (prepared.state declared among)
  · refine hasLayout_list (forall_mem_singleton.2 (hasLayout_dict ?_))
    simp only [forall_mem_cons]
    refine ⟨hasLayout_str _, ?_, nofun⟩
    refine hasLayout_list (forall_mem_singleton.2 (hasLayout_dict ?_))
    simp only [forall_mem_cons]
    exact ⟨hasLayout_str _, hasLayout_code _, nofun⟩

theorem schemaKeys_within {config : FinishConfig} (suits : Suits limits (.finish config)) :
    Within limits (schemaKeys id config.schema) := by
  unfold schemaKeys
  split
  · next entry rest given =>
      have listed : Json.obj (entry :: rest) ∈ givenSchema config.schema := by
        rw [given]
        exact mem_cons_self
      refine (suits.schemas _ listed _).bind fun _ accepted => ?_
      exact (suits.reads _ listed ⟨_, accepted⟩).bind fun _ _ => .ok _
  · exact .ok []

theorem forall_setKey {record : List (Text × Literal)} {key : Text} {value : Literal}
    (each : ∀ entry ∈ record, property entry.2) (new : property value) :
    ∀ entry ∈ setKey record key value, property entry.2 := by
  unfold setKey
  split
  · intro entry listed
    obtain ⟨old, among, rfl⟩ := mem_map.1 listed
    split
    · exact new
    · exact each old among
  · exact forall_mem_append.2 ⟨each, forall_mem_singleton.2 new⟩

theorem forall_record {values : List (Text × Literal)} (each : ∀ value ∈ values, property value.2)
    (record : List (Text × Literal)) (start : ∀ entry ∈ record, property entry.2) :
    ∀ entry ∈ values.foldl (fun record (key, value) => setKey record key value) record,
      property entry.2 := by
  induction values generalizing record with
  | nil => exact start
  | cons value rest ih =>
    obtain ⟨first, others⟩ := forall_mem_cons.1 each
    exact ih others _ (forall_setKey start first)

theorem mapM_returns {σ α β : Type} {work : α → Stoppable σ β} {relates : α → β → Prop}
    (each : ∀ item, Returns (work item) (relates item)) (items : List α) :
    Returns (items.mapM work) (List.Forall₂ relates items) := by
  induction items with
  | nil => exact .pure .nil
  | cons item rest ih =>
    rw [mapM_cons]
    exact .bind _ (each item) fun _ first => .bind _ ih fun _ others => .pure (.cons first others)

theorem emitFinish_steady {config : FinishConfig} (isFinish : node.config = .finish config)
    (prepared : context.Prepared limits node) (suits : Suits limits node.config) :
    Steady limits (emitFinish context path id config) := by
  rw [isFinish] at suits
  have readable := suits.expressions
  unfold emitFinish
  split
  · exact .pure _
  · refine (liftError_steady (schemaKeys_within suits)).then_ fun keys => ?_
    refine liftError_bind_steady (Within.mapM fun entry listed => ?_) fun values computed => ?_
    · exact (expression_within prepared.fields
        (readable entry.2 (mem_map_of_mem listed))).bind fun _ _ => .ok _
    · refine (allocate_steady (by decide)).then_ fun result => ?_
      refine (liftError_steady (layout_within (hasLayout_dict ?_))).then_ fun _ => .pure _
      refine forall_record (fun value listed => ?_) _ fun entry listed => ?_
      · obtain ⟨entry, _, done⟩ := exists_of_mem_right (forall₂_of_mapM computed) listed
        obtain ⟨code, _, same⟩ := Except.bind_eq_ok.1 done
        cases same
        exact hasLayout_code code
      · obtain ⟨key, _, rfl⟩ := mem_map.1 listed
        exact Literal.hasLayout_null

/-! ## Data and searches -/

theorem emitTransform_steady (fields : ∃ names, context.graph.inputFieldNames = .ok names)
    (readable : Readable limits source) :
    Steady limits (emitTransform context path id source) := by
  unfold emitTransform
  dsimp only
  split
  · exact (Steady.pure _).then_ fun _ => (allocate_steady (by decide)).then_ fun _ => .pure _
  · exact (liftError_steady (expression_within fields readable)).then_ fun _ =>
      (allocate_steady (by decide)).then_ fun _ => .pure _

theorem emitSetState_steady {assignments : List Assignment}
    (fields : ∃ names, context.graph.inputFieldNames = .ok names)
    (readable : ∀ source ∈ assignments.map Assignment.expression,
      Readable limits source) :
    Steady limits (emitSetState context path id assignments) := by
  refine (liftError_steady (Within.mapM fun assignment listed => ?_)).then_ fun _ => .pure _
  unfold assignmentLine?
  split
  · exact .ok none
  · split
    · exact .error rfl
    · exact (expression_within fields (readable _ (mem_map_of_mem listed))).bind fun _ _ => .ok _

theorem transportArguments_within (config : ServerConfig) :
    Within limits (transportArguments context config) := by
  unfold transportArguments
  split
  · refine (layout_within (hasLayout_list fun item listed => ?_)).bind fun _ _ => .ok _
    obtain ⟨arg, _, rfl⟩ := mem_map.1 listed
    exact hasLayout_str arg
  · dsimp only
    split
    · exact .ok _
    · refine (layout_within (hasLayout_dict fun entry listed => ?_)).bind fun _ _ => .ok _
      obtain ⟨header, _, rfl⟩ := mem_map.1 listed
      exact hasLayout_str _

theorem hasLayout_ofEntries (finite : (Json.obj entries).Everywhere Json.IsFinite) :
    (dict (ofEntries entries)).HasLayout unit := hasLayout_ofJson _ finite

theorem emitServer_steady {config : ServerConfig} (finite : (Config.mcpTool config).Finite) :
    Steady limits (emitServer context config) := by
  refine (allocate_steady (by decide)).then_ fun _ =>
    (allocate_steady (by decide)).then_ fun _ => ?_
  refine (liftError_steady (transportArguments_within config)).then_ fun _ => ?_
  refine (Steady.mapM fun call listed => ?_).then_ fun _ => .pure _
  refine (allocate_steady (by decide)).then_ fun _ => ?_
  have laid : (dict (ofEntries call.arguments)).HasLayout context.unit :=
    hasLayout_ofEntries (finite _ (mem_map_of_mem listed))
  exact (liftError_steady (layout_within laid)).then_ fun _ => .pure _

/-! ## Agents -/

theorem toolParts_steady (isAgent : node.config = .agent config)
    (prepared : context.Prepared limits node) (finite : node.config.Finite)
    {tool : AgentTool} (listed : tool ∈ config.tools) :
    Steady limits (toolParts context tool) := by
  cases tool with
  | function tool =>
    have used : tool ∈ toolsOf node := by
      rw [toolsOf, isAgent]
      exact mem_filterMap.2 ⟨_, listed, rfl⟩
    have known : Within limits _ := parameters_within (prepared.tools tool used)
    exact (liftError_steady (toolDeclaration_within known _)).then_ fun _ =>
      (liftError_steady (toolImports_within known)).then_ fun _ => .pure _
  | webSearch search =>
    rw [isAgent] at finite
    have laid : (dict (ofEntries search.userLocation)).HasLayout context.unit :=
      hasLayout_ofEntries (finite _ (mem_filterMap.2 ⟨_, listed, rfl⟩))
    refine (allocate_steady (by decide)).then_ fun _ => ?_
    exact (liftError_steady ((layout_within laid).bind fun _ _ => .ok _)).then_ fun _ => .pure _

theorem answerClass_steady (suits : Suits limits (.agent config)) :
    Steady limits (answerClass id config) := by
  unfold answerClass
  split
  · next entry rest structured schema =>
      have given : config.outputFormat.given = [.obj (entry :: rest)] := by
        rw [OutputFormat.given, structured, schema]
        rfl
      have listed : Json.obj (entry :: rest) ∈ config.outputFormat.given := by simp [given]
      refine liftError_bind_steady (suits.schemas _ listed _) fun _ accepted => ?_
      refine (suits.bases _ (by simp [Config.bases, given])).then_ fun name => ?_
      exact (liftError_steady (Schema.recordClass_within _ _ _
        (suits.reads _ listed ⟨_, accepted⟩))).then_ fun _ => .pure _
  · exact .pure none

theorem agentCall_within (config : AgentConfig) (sources : List Text)
    (answer : Option Schema.Typed) : Within limits (agentCall context config sources answer) := by
  unfold agentCall
  dsimp only
  split
  · exact .ok _
  · refine (layout_within ?_).bind fun _ _ => .ok _
    refine hasLayout_list fun item listed => ?_
    obtain ⟨source, _, rfl⟩ := mem_map.1 listed
    exact hasLayout_code source

theorem hasLayout_message (message : Message) : (messageLiteral message).HasLayout unit := by
  refine hasLayout_dict ?_
  simp only [forall_mem_cons]
  refine ⟨hasLayout_str _, hasLayout_list fun part listed => ?_, ?_⟩
  · obtain ⟨part, _, rfl⟩ := mem_map.1 listed
    refine hasLayout_dict ?_
    simp only [forall_mem_cons]
    exact ⟨hasLayout_str _, hasLayout_str _, nofun⟩
  · split
    · exact forall_mem_singleton.2 (hasLayout_str _)
    · nofun

theorem runLines_within (config : AgentConfig) (agent temporary result : Text)
    (structured : Bool) : Within limits
    (runLines context config agent temporary result structured) := by
  refine (layout_within (hasLayout_list ?_)).bind fun _ _ =>
    (layout_within ?_).bind fun _ _ => .ok _
  · refine forall_mem_cons.2 ⟨hasLayout_code _, fun item listed => ?_⟩
    obtain ⟨message, _, rfl⟩ := mem_map.1 listed
    exact hasLayout_message message
  · unfold answerRecord
    split
    · refine hasLayout_dict ?_
      simp only [forall_mem_cons]
      exact ⟨hasLayout_code _, hasLayout_code _, nofun⟩
    · exact hasLayout_dict (forall_mem_singleton.2 (hasLayout_code _))

theorem emitAgent_steady (isAgent : node.config = .agent config)
    (prepared : context.Prepared limits node) (suits : Suits limits node.config)
    (finite : node.config.Finite) : Steady limits (emitAgent context id config) := by
  rw [isAgent] at suits
  refine (allocate_steady (by decide)).bind (allocate_returns _) fun agent extended => ?_
  refine (Steady.mapM fun tool listed => toolParts_steady isAgent prepared finite listed).then_
    fun parts => (answerClass_steady suits).then_ fun answer => ?_
  refine (liftError_steady (agentCall_within _ _ _)).then_ fun call => ?_
  refine (allocate_steady (SymbolTable.isBase_agent extended.2 (by decide))).then_
    fun temporary => ?_
  refine (allocate_steady (SymbolTable.isBase_agent extended.2 (by decide))).then_ fun result => ?_
  exact (liftError_steady (runLines_within _ _ _ _ _)).then_ fun _ => .pure _

/-! ## Guardrails -/

theorem guardrailNames_steady : Steady limits guardrailNames := by
  refine (allocate_steady (by decide)).then_ fun _ =>
    (allocate_steady (by decide)).then_ fun _ => ?_
  refine (allocate_steady (by decide)).then_ fun _ =>
    (allocate_steady (by decide)).then_ fun _ => ?_
  exact (allocate_steady (by decide)).then_ fun _ => (allocate_steady (by decide)).then_
    fun _ => .pure _

theorem guardedStage_steady (names : GuardrailNames) :
    Steady limits (guardedStage context names) := by
  refine (allocate_steady (by decide)).then_ fun _ =>
    (allocate_steady (by decide)).then_ fun _ => ?_
  refine (liftError_steady (layout_within (hasLayout_dict ?_))).then_ fun _ => .pure _
  exact forall_mem_singleton.2 (hasLayout_code _)

theorem policyEntry_within (lists : ∀ value ∈ policy.lists, Within limits (liftShape value.items)) :
    Within limits (policyEntry policy) := by
  unfold policyEntry
  dsimp only
  split
  · next kind =>
      exact (lists _ (by simp [Policy.lists, kind])).bind fun _ _ => .ok _
  · split
    · next other kind =>
        have listed : policy.config.getOr "entities" (.arr []) ∈ policy.lists := by
          rw [Policy.lists, if_neg other, if_pos kind]
          exact mem_cons_self
        exact (lists _ listed).bind fun _ _ => .ok _
    · split
      · exact .ok _
      · exact .ok _

/-- The characters of a text and the keys of an object are as finite as the items of a list. -/
theorem finite_items {value : Json} {items : List Json} (finite : value.Everywhere Json.IsFinite)
    (read : value.items = .ok items) : ∀ item ∈ items, item.Everywhere Json.IsFinite := by
  unfold Json.items at read
  split at read
  · next found =>
      cases read
      unfold Json.items? at found
      split at found
      · cases found
        exact (Json.everywhere_arr.1 finite).2
      · cases found
        intro item listed
        obtain ⟨c, _, rfl⟩ := mem_map.1 listed
        exact Json.everywhere_scalar rfl trivial
      · cases found
        intro item listed
        obtain ⟨entry, _, rfl⟩ := mem_map.1 listed
        exact Json.everywhere_scalar rfl trivial
      · cases found
  · cases read

theorem finite_getOr (finite : (Json.obj entries).Everywhere Json.IsFinite) (key : Text)
    {fallback : Json} (otherwise : fallback.Everywhere Json.IsFinite) :
    (entries.getOr key fallback).Everywhere Json.IsFinite :=
  Schema.getOr_of_lookup _ otherwise fun _ found _ =>
    Decode.everywhere_of_get? (everywhere_obj_iff.1 finite) found

theorem finite_defaultConfidence : defaultConfidence.Everywhere Json.IsFinite := by
  refine Json.everywhere_scalar rfl ?_
  show (Binary64.ofDecimal false 7 (-1)).isFinite = true
  decide +kernel

/-- The bundle entry of a policy holds the numbers of its settings. -/
theorem finite_policyEntry {entry : Json}
    (finite : (Json.obj policy.config).Everywhere Json.IsFinite)
    (made : policyEntry policy = .ok entry) : entry.Everywhere Json.IsFinite := by
  have none : (Json.arr []).Everywhere Json.IsFinite := Json.everywhere_scalar rfl trivial
  have wrap {name : Text} {config : Entries} (inner : Decode.FiniteEntries config) :
      (Json.obj [("name", .str name), ("config", .obj config)]).Everywhere Json.IsFinite := by
    refine everywhere_obj_iff.2 (forall_mem_cons.2
      ⟨Json.everywhere_scalar rfl trivial, forall_mem_singleton.2 ?_⟩)
    exact everywhere_obj_iff.2 inner
  unfold policyEntry at made
  dsimp only at made
  split at made
  · obtain ⟨items, read, same⟩ := Except.bind_eq_ok.1 made
    cases same
    refine wrap (forall_mem_singleton.2 (Json.everywhere_arr.2 ⟨trivial, ?_⟩))
    exact finite_items (finite_getOr finite _ none) (liftShape_eq_ok.1 read)
  · split at made
    · obtain ⟨items, read, same⟩ := Except.bind_eq_ok.1 made
      cases same
      refine wrap (forall_mem_cons.2 ⟨Json.everywhere_scalar rfl trivial,
        forall_mem_singleton.2 (Json.everywhere_arr.2 ⟨trivial, ?_⟩)⟩)
      exact finite_items (finite_getOr finite _ none) (liftShape_eq_ok.1 read)
    · split at made
      · cases made
        refine wrap (forall_mem_cons.2 ⟨?_, forall_mem_singleton.2 ?_⟩)
        · exact finite_getOr finite _ (Json.everywhere_scalar rfl trivial)
        · exact finite_getOr finite _ finite_defaultConfidence
      · cases made
        exact wrap (everywhere_obj_iff.1 finite)

theorem guardrailSource_within {config : GuardrailConfig}
    (fields : ∃ names, context.graph.inputFieldNames = .ok names)
    (readable : ∀ source ∈ config.input.toList, Readable limits source) :
    Within limits (guardrailSource context path id config) := by
  unfold guardrailSource
  split
  · next source given =>
      split
      · exact .ok _
      · exact expression_within fields (readable source (by simp [given]))
  · exact .ok _

theorem emitGuardrail_steady {config : GuardrailConfig}
    (isGuardrail : node.config = .guardrail config)
    (prepared : context.Prepared limits node) (suits : Suits limits node.config)
    (finite : node.config.Finite) : Steady limits (emitGuardrail context path id config) := by
  have readable := suits.expressions
  have lists := suits.lists
  rw [isGuardrail] at readable lists finite
  unfold emitGuardrail
  refine guardrailNames_steady.then_ fun names => ?_
  refine (liftError_steady (guardrailSource_within prepared.fields readable)).then_ fun _ => ?_
  refine liftError_bind_steady (Within.mapM fun policy listed => ?_) fun entries made => ?_
  · exact policyEntry_within fun value among => lists value (mem_flatMap.2 ⟨policy, listed, among⟩)
  · have laid : (dict [("guardrails", .list (entries.map ofJson))]).HasLayout
        context.unit := by
      refine hasLayout_dict (forall_mem_singleton.2 (hasLayout_list fun item listed => ?_))
      obtain ⟨entry, among, rfl⟩ := mem_map.1 listed
      obtain ⟨policy, member, done⟩ := exists_of_mem_right (forall₂_of_mapM made) among
      exact hasLayout_ofJson _ (finite_policyEntry (finite _ (mem_map_of_mem member)) done)
    refine (liftError_steady (layout_within laid)).then_ fun _ => ?_
    dsimp only
    split
    · exact (guardedStage_steady names).then_ fun _ => .pure _
    · exact (Steady.pure _).then_ fun _ => .pure _

/-! ## All nodes -/

/-- **The emitter of a node that suits the limits stays within them.** -/
theorem emission_steady (prepared : context.Prepared limits node) (suits : Suits limits node.config)
    (finite : node.config.Finite) (path : Path) : Steady limits (emission context node path) := by
  have readable := suits.expressions
  unfold emission
  cases isConfig : node.config with
  | start => exact emitStart_steady prepared
  | finish config => exact emitFinish_steady isConfig prepared suits
  | agent config => exact emitAgent_steady isConfig prepared suits finite
  | functionTool call => exact emitFunctionTool_steady isConfig prepared suits
  | transform source =>
    rw [isConfig] at readable
    exact emitTransform_steady prepared.fields (readable source mem_cons_self)
  | setState assignments =>
    rw [isConfig] at readable
    exact emitSetState_steady prepared.fields readable
  | branch conditions =>
    rw [isConfig] at readable
    exact (liftError_steady (Within.mapM fun source listed =>
      expression_within prepared.fields (readable source listed))).then_ fun _ => .pure _
  | loop condition =>
    rw [isConfig] at readable
    exact (liftError_steady (expression_within prepared.fields
      (readable condition mem_cons_self))).then_ fun _ => .pure _
  | approval message =>
    exact (allocate_steady (by decide)).then_ fun _ => (allocate_steady (by decide)).then_
      fun _ => .pure _
  | fileSearch search => exact (allocate_steady (by decide)).then_ fun _ => .pure _
  | mcpTool config =>
    rw [isConfig] at finite
    exact emitServer_steady finite
  | guardrail config => exact emitGuardrail_steady isConfig prepared suits finite

end Emit

end AgentFlow
