import AgentFlow.Proofs.Linear.Trail
import AgentFlow.Proofs.Module.Written
import AgentFlow.Proofs.Schema.Fields
import AgentFlow.Proofs.Workflow.ToolNames

/-!
# Names that are spliced into a module

The names of function tools, of their parameters, and of the fields of the input and of structured
answers are written into the module without quotes.  A tool's name cannot be used there if a line
break stands after it, and a field of an answer cannot if it is a reserved word.
-/

namespace AgentFlow

open List Workflow Emit Stoppable
open Text (join isBlank ofString ofChars)

/-! ## What nodes introduce -/

namespace Emit

/-- What a node declares: the tools it uses, and the classes of its answer. -/
structure Emission.Introduces (context : Context) (node : Node) (emission : Emission) : Prop where
  tools : ∀ tool ∈ toolsOf node, ∃ declaration ∈ emission.declarations,
    toolDeclaration (toolNamed context tool) context.unit = .ok declaration
  classes : ∀ config, node.config = .agent config →
    ∀ schema, .obj schema ∈ config.outputFormat.given → ∃ place name typed,
      (Schema.pascal config.name ++ "Schema").Extends name ∧
      Schema.recordClass place name schema = .ok typed ∧ ∃ declaration ∈ emission.declarations,
        ∀ cls ∈ typed.classes, ∀ line ∈ cls.header context.unit, line ∈ declaration.lines

variable {context : Context} {taken later : List Text} {node : Node}

theorem Served.declares {tools : List AgentTool} {parts : List ToolParts}
    (served : Served context taken later tools parts) {function : FunctionTool}
    (used : .function function ∈ tools) :
    ∃ declaration ∈ parts.flatMap ToolParts.declarations,
      toolDeclaration (toolNamed context function) context.unit = .ok declaration := by
  induction served with
  | nil => cases used
  | cons grown grown' first rest ih =>
    rw [flatMap_cons]
    rcases mem_cons.1 used with rfl | more
    · cases first with
      | function declared => exact ⟨_, mem_append_left _ mem_cons_self, declared⟩
    · obtain ⟨declaration, listed, made⟩ := ih more
      exact ⟨declaration, mem_append_right _ listed, made⟩

theorem Asks.introduces {emission : Emission}
    (asks : Asks context taken later node.id node.config emission) :
    emission.Introduces context node := by
  refine ⟨fun tool used => ?_, fun config isAgent schema asked => ?_⟩
  · unfold toolsOf at used
    split at used
    · next call isCall =>
        rw [isCall] at asks
        cases mem_singleton.1 used
        cases asks with
        | nothing other => cases other
        | functionTool made declared =>
          exact ⟨_, declared ▸ mem_singleton.2 rfl, made⟩
    · next config isAgent =>
        obtain ⟨definition, among, chosen⟩ := mem_filterMap.1 used
        rw [isAgent] at asks
        cases definition with
        | webSearch search => cases chosen
        | function function =>
          cases chosen
          cases asks with
          | nothing other => cases other
          | agent handed served grown answers made declared =>
            obtain ⟨declaration, listed, made⟩ := served.declares among
            exact ⟨declaration, declared ▸ mem_append_left _ listed, made⟩
    · cases used
  · rw [isAgent] at asks
    cases asks with
    | nothing other => cases other
    | agent handed served grown answers made declared =>
      cases answers with
      | plain unasked =>
        rw [unasked] at asked
        cases asked
      | @structured place name _ typed given handed made =>
        rw [given] at asked
        cases mem_singleton.1 asked
        refine ⟨place, name, typed, handed.grown, made, _,
          declared ▸ mem_append_right _ (mem_singleton.2 rfl), ?_⟩
        intro cls among line inside
        refine mem_append_left _ (mem_append_left _ ?_)
        refine mem_flatMap.2 ⟨typed, mem_singleton.2 rfl, ?_⟩
        exact mem_flatMap.2 ⟨cls, among, mem_append_left _ inside⟩

/-- The header of the function of a tool. -/
def signature (tool : FunctionTool) (found : List Parameter) : Text :=
  "def " ++ tool.name ++ "(" ++ join ", " (found.map Parameter.text) ++ "):"

theorem signature_mem {tool : FunctionTool} {unit : Text} {declaration : Module.Declaration}
    {found : List Parameter} (declared : toolDeclaration tool unit = .ok declaration)
    (listed : parameters tool = .ok found) : signature tool found ∈ declaration.lines := by
  obtain ⟨_, listed', made⟩ := Except.bind_eq_ok.1 declared
  cases listed.symm.trans listed'
  rw [← Except.pure_eq_ok.1 made]
  exact mem_cons_self

theorem isBlank_signature (tool : FunctionTool) (found : List Parameter) :
    (signature tool found).isBlank = false := by
  simp only [signature, isBlank, all_append,
    show List.all (ofString "):") CodePoint.isBlank = false by decide, Bool.and_false]

end Emit

/-! ## Names and the code around them -/

/-- A name that generated code can use: an identifier that is no reserved word. -/
def Text.IsUsable (name : Text) : Prop :=
  name.isIdentifier = true ∧ Target.isKeyword name = false

/-- The kinds of names that a workflow chooses and that are written without quotes. -/
inductive NameKind where
  | tool | parameter | inputField | outputField

def fieldStart (unit name : Text) : Text := "\n" ++ unit ++ name ++ ":"

/-- A name of a kind that a graph chooses, with the code that it is written in. -/
inductive Spliced (graph : Graph) (unit : Text) : NameKind → Text → Text → Prop
  | tool {tools} {tool : FunctionTool}
      (collected : collectTools graph = .ok tools) (known : tool ∈ tools) :
      Spliced graph unit .tool tool.name ("def " ++ tool.name ++ "(")
  | parameter {tools tool found} {parameter : Parameter}
      (collected : collectTools graph = .ok tools) (known : tool ∈ tools)
      (listed : parameters tool = .ok found) (member : parameter ∈ found) :
      Spliced graph unit .parameter parameter.name (signature tool found)
  | inputField {properties name schema}
      (read : (graph.workflow.inputSchema.getOr "properties" (.obj [])).entries = .ok properties)
      (member : (name, schema) ∈ properties) :
      Spliced graph unit .inputField name (fieldStart unit name)
  | outputField {node : Node} {config : AgentConfig} {schema name}
      (listed : node ∈ graph.nodes) (isAgent : node.config = .agent config)
      (asked : .obj schema ∈ config.outputFormat.given) (has : Schema.HasField schema name) :
      Spliced graph unit .outputField name (fieldStart unit name)

namespace Module

variable {builder : Builder} {context : Context} {record : Schema.RecordClass} {body : Statement}
  {field : Schema.Field}

theorem signature_written {declaration : Declaration} {tool : FunctionTool}
    {found : List Parameter} (declared : declaration ∈ builder.declarations)
    (made : toolDeclaration tool context.unit = .ok declaration)
    (listed : parameters tool = .ok found) :
    signature tool found <:+: written context builder record body := by
  obtain ⟨front, shape⟩ : ∃ front, signature tool found = front ++ [.scalar ':'] :=
    ⟨"def " ++ tool.name ++ "(" ++ join ", " (found.map Parameter.text) ++ ")",
      by simp [signature, ofString, ofChars]⟩
  have stands : (.scalar '\n' :: (signature tool found).trimEnd) <:+:
      written context builder record body :=
    infix_written (mem_append_left _
      (mem_sections declared (signature_mem made listed) (isBlank_signature tool found)))
  rw [shape, Text.trimEnd_of_visible front rfl, ← shape] at stands
  exact (suffix_cons _ _).isInfix.trans stands

theorem fieldStart_written (stands : (.scalar '\n' :: (field.line context.unit).trimEnd) <:+:
      written context builder record body) :
    fieldStart context.unit field.name <:+: written context builder record body := by
  have shape : field.line context.unit = (context.unit ++ field.name) ++ .scalar ':' ::
      .scalar ' ' :: (field.type ++ if field.required then [] else " | None = None") := by
    simp [Schema.Field.line, ofString, ofChars]
  have starts : fieldStart context.unit field.name =
      .scalar '\n' :: (context.unit ++ field.name ++ [.scalar ':']) := by
    simp [fieldStart, ofString, ofChars]
  rw [shape] at stands
  rw [starts]
  refine List.IsInfix.trans (List.IsPrefix.isInfix ?_) stands
  exact cons_prefix_cons.2 ⟨rfl, Text.prefix_trimEnd rfl⟩

theorem line_mem_header {unit : Text} {cls : Schema.RecordClass} (member : field ∈ cls.fields) :
    field.line unit ∈ cls.header unit := by
  unfold Schema.RecordClass.header
  rw [if_neg (by simpa [List.isEmpty_iff] using ne_nil_of_mem member)]
  exact mem_cons_of_mem _ (mem_map_of_mem member)

theorem isBlank_line (unit : Text) (field : Schema.Field) : (field.line unit).isBlank = false := by
  simp only [Schema.Field.line, isBlank, all_append,
    show List.all (ofString ": ") CodePoint.isBlank = false by decide, Bool.and_false,
    Bool.false_and]

end Module

/-! ## Compiling -/

theorem toolNamed_of_mem {context : Context} {tool : FunctionTool}
    (distinct : (context.tools.map FunctionTool.name).Nodup) (known : tool ∈ context.tools) :
    toolNamed context tool = tool := by
  unfold toolNamed
  cases found : context.tools.find? (·.name = tool.name) with
  | none => rfl
  | some other =>
    exact inj_on_of_nodup_map distinct (mem_of_find?_eq_some found) known
      (by simpa using find?_some found)

namespace Origin

variable {graph : Graph} {context : Context} {draft last : Draft} {route : Linear.Route}
  {builder : Module.Builder} {properties : Entries} {record : Schema.RecordClass} {source : Text}
  {kind : NameKind} {name code : Text}
  (origin : Origin graph context draft last route builder properties record source)
  {tool : FunctionTool}

include origin

theorem asks : ∀ call ∈ route.calls, (∃ taken later,
      Asks context taken later call.node.id call.node.config call.emission) ∧
        Imported context call.node.config call.emission.imports :=
  Linear.survey_calls (emission_returns_asks context) origin.surveyed

theorem introduces : ∀ call ∈ route.calls, call.emission.Introduces context call.node :=
  fun call called =>
    let ⟨⟨_, _, asks⟩, _⟩ := origin.asks call called
    asks.introduces

theorem uses_tools (valid : validate graph = .ok ()) (known : tool ∈ context.tools) :
    ∃ call ∈ route.calls, tool ∈ toolsOf call.node ∧ toolNamed context tool = tool := by
  obtain ⟨rfl, collecting, _⟩ := start_eq_ok origin.started
  have gathered := collected_of_collectTools collecting
  obtain ⟨node, defined, _⟩ := gathered.origin tool known
  obtain ⟨node', listed, used⟩ :=
    mem_definitions_iff.1 (mem_map_of_mem (f := Prod.snd) defined)
  obtain ⟨call, called, rfl⟩ := origin.follows.exists_call valid listed
  exact ⟨call, called, used, toolNamed_of_mem gathered.distinct known⟩

theorem declares_tools (valid : validate graph = .ok ()) (known : tool ∈ context.tools) :
    ∃ declaration ∈ builder.declarations, toolDeclaration tool context.unit = .ok declaration := by
  obtain ⟨call, called, used, same⟩ := origin.uses_tools valid known
  obtain ⟨declaration, among, made⟩ := (origin.introduces call called).tools tool used
  exact ⟨declaration, (origin.declared _).2 ⟨call, called, among⟩, same ▸ made⟩

/-- **All names that a graph chooses stand in its module.** -/
theorem writes_spliced (valid : validate graph = .ok ())
    (spliced : Spliced graph context.unit kind name code) : code <:+: source := by
  obtain ⟨same, collecting, _⟩ := start_eq_ok origin.started
  rw [origin.text]
  cases spliced with
  | tool collected known =>
    cases collecting.symm.trans collected
    obtain ⟨declaration, among, made⟩ := origin.declares_tools valid known
    obtain ⟨found, listed, _⟩ := Except.bind_eq_ok.1 made
    refine List.IsInfix.trans (List.IsPrefix.isInfix ?_)
      (Module.signature_written among made listed)
    exact (prefix_append _ _).trans (prefix_append _ _)
  | parameter collected known listed member =>
    cases collecting.symm.trans collected
    obtain ⟨declaration, among, made⟩ := origin.declares_tools valid known
    exact Module.signature_written among made listed
  | @inputField properties name schema read member =>
    have read' := origin.isClass.given
    rw [same] at read'
    cases read.symm.trans read'
    obtain ⟨required, fields⟩ := origin.isClass.fields
    have inside : Module.inputField required (name, schema) ∈ record.fields := by
      rw [fields]
      exact mem_map_of_mem member
    have stands : (.scalar '\n' ::
        ((Module.inputField required (name, schema)).line context.unit).trimEnd) <:+:
        Module.written context builder record (.block route.block) :=
      Module.infix_written (mem_append_right _ (Module.line_mem_header inside))
    exact Module.fieldStart_written stands
  | @outputField node config schema name listed isAgent asked has =>
    obtain ⟨call, called, rfl⟩ := origin.follows.exists_call valid listed
    obtain ⟨place, className, typed, _, made, declaration, among, lines⟩ :=
      (origin.introduces call called).classes config isAgent schema asked
    obtain ⟨cls, member, field, inside, rfl⟩ :=
      (Schema.recordClass_fields schema made name).2 has
    have line := lines cls member _ (Module.line_mem_header inside)
    refine Module.fieldStart_written (Module.infix_written (mem_append_left _ ?_))
    exact Module.mem_sections ((origin.declared _).2 ⟨call, called, among⟩) line
      (Module.isBlank_line _ _)

/-- **Which names can be used.**  The name of a tool needs to have no line break after it, a field
of an answer not to be a reserved word; parameters and fields of the input are always checked. -/
theorem isUsable_iff (valid : validate graph = .ok ())
    (plain : ∀ node ∈ graph.nodes, ∀ tool ∈ toolsOf node, tool.name.isPlainName = true)
    (spliced : Spliced graph context.unit kind name code) :
    name.IsUsable ↔ match kind with
      | .tool => ¬ name.Breaks
      | .outputField => Target.isKeyword name = false
      | _ => True := by
  obtain ⟨tools, collecting, free, same, _⟩ := start_eq_ok_iff.1 origin.started
  cases spliced with
  | @tool tools' tool collected known =>
    cases collecting.symm.trans collected
    obtain ⟨node, defined, _⟩ := (collected_of_collectTools collecting).origin tool known
    obtain ⟨node', listed, used⟩ :=
      mem_definitions_iff.1 (mem_map_of_mem (f := Prod.snd) defined)
    rw [Text.IsUsable, Text.isIdentifier_iff_of_plain (plain node' listed tool used),
      and_iff_left (free tool known).2]
  | parameter collected known listed member =>
    have fits := parameters_fit listed _ member
    exact iff_true_intro ⟨fits.identifier, fits.free⟩
  | @inputField properties name schema read member =>
    have read' := origin.isClass.given
    rw [same] at read'
    cases read.symm.trans read'
    have checked := origin.isClass.usable _ member
    simp only [Module.isInputField, Bool.and_eq_true, Bool.not_eq_true'] at checked
    exact iff_true_intro checked.1
  | @outputField node config schema name listed isAgent asked has =>
    obtain ⟨call, called, rfl⟩ := origin.follows.exists_call valid listed
    obtain ⟨place, className, typed, _, made, _⟩ :=
      (origin.introduces call called).classes config isAgent schema asked
    have checked := Schema.isFieldName_of_recordClass made has
    simp only [Schema.isFieldName, Bool.and_eq_true] at checked
    exact and_iff_right checked.1

end Origin

/-- The module of a payload comes from a checked graph, whose tools have plain names. -/
theorem exists_origin_of_compile {payload : Payload} {settings : Settings} {source : Text}
    (compiled : compile payload settings = .ok source) :
    ∃ graph context draft last route builder properties record, loadGraph payload = .ok graph ∧
      validate graph = .ok () ∧
      (∀ node ∈ graph.nodes, ∀ tool ∈ toolsOf node, tool.name.isPlainName = true) ∧
      context.settings = settings ∧
      Origin graph context draft last route builder properties record source := by
  obtain ⟨graph, loaded, generated⟩ := Except.bind_eq_ok.1 compiled
  obtain ⟨workflow, read, checked⟩ := Except.bind_eq_ok.1 loaded
  obtain ⟨rfl, valid⟩ := checkedGraph_eq_ok_iff.1 checked
  obtain ⟨value, _, decoded⟩ := Except.bind_eq_ok.1 read
  obtain ⟨context, draft, last, route, builder, properties, record, same, origin⟩ :=
    exists_origin generated
  exact ⟨graph, context, draft, last, route, builder, properties, record, loaded, valid,
    hasPlainTools_of_ofJson decoded, same, origin⟩

/-- **The names that are spliced into a module, and when all of them can be used.**  If a payload
compiles, all names that its graph chooses for tools, parameters and fields stand in the module as
they are.  All of them are identifiers and no reserved words exactly if no line break stands after
the name of a tool and no field of an answer is a reserved word. -/
theorem spliced_names_usable_iff {payload : Payload} {settings : Settings} {source : Text}
    (compiled : compile payload settings = .ok source) :
    ∃ graph, loadGraph payload = .ok graph ∧
      (∀ kind name code, Spliced graph settings.unit kind name code → code <:+: source) ∧
      ((∀ kind name code, Spliced graph settings.unit kind name code → name.IsUsable) ↔
        (∀ name code, Spliced graph settings.unit .tool name code → ¬ name.Breaks) ∧
          ∀ name code, Spliced graph settings.unit .outputField name code →
            Target.isKeyword name = false) := by
  obtain ⟨graph, context, draft, last, route, builder, properties, record, loaded, valid, plain,
    rfl, origin⟩ :=
    exists_origin_of_compile compiled
  refine ⟨graph, loaded, fun _ _ _ => origin.writes_spliced valid, ?_⟩
  constructor
  · intro usable
    exact ⟨fun name code spliced =>
        (origin.isUsable_iff valid plain spliced).1 (usable _ name code spliced),
      fun name code spliced =>
        (origin.isUsable_iff valid plain spliced).1 (usable _ name code spliced)⟩
  · rintro ⟨tools, fields⟩ kind name code spliced
    refine (origin.isUsable_iff valid plain spliced).2 ?_
    cases kind with
    | tool => exact tools name code spliced
    | outputField => exact fields name code spliced
    | parameter => trivial
    | inputField => trivial

/-! ### A workflow that calls a tool -/

/-- The document of a workflow that calls a function tool. -/
def callingDocument (name : Text) : Payload :=
  .value (.obj [("entry_node_id", .str "s"),
    ("input_schema", .obj [("properties", .obj [("input_as_text", .obj [])])]),
    ("nodes", .arr [.obj [("id", .str "s"), ("kind", .str "start")],
      .obj [("id", .str "t"), ("kind", .str "function_tool"), ("config", .obj [("name", .str name),
        ("parameters", .obj [("properties", .obj [("query", .obj [])])])])],
      .obj [("id", .str "e"), ("kind", .str "end")]]),
    ("edges", .arr [.obj [("from", .str "s"), ("to", .str "t")],
      .obj [("from", .str "t"), ("to", .str "e")]])])

def calledTool (name : Text) : FunctionTool :=
  { name, parameters := [("properties", .obj [("query", .obj [])])] }

def calling (name : Text) : Graph where
  workflow := {
    entryId := "s"
    inputSchema := [("properties", .obj [("input_as_text", .obj [])])]
    nodes := [{ id := "s", config := .start },
      { id := "t", config := .functionTool { tool := calledTool name } },
      { id := "e", config := .finish {} }]
    edges := [{ source := "s", target := "t" }, { source := "t", target := "e" }] }
  distinct := show (["s", "t", "e"] : List Text).Nodup by decide

/-- Names for the tool: a usual one, one with a line break, and that of a function that generated
code calls. -/
def calledNames : List Text := ["lookup", "f\n", "len"]

theorem collectTools_calling (name : Text) :
    collectTools (calling name) = .ok [calledTool name] := by cbv

variable {name : Text}

theorem loadGraph_calling (listed : name ∈ calledNames) :
    loadGraph (callingDocument name) = .ok (calling name) := by
  have read : ∀ name ∈ calledNames,
      (callingDocument name).workflow = .ok (calling name).workflow :=
    forall_mem_cons.2
      ⟨rfl, forall_mem_cons.2 ⟨rfl, forall_mem_singleton.2 rfl⟩⟩
  have sound : ∀ name ∈ calledNames, (problems (calling name) ["input_as_text"]).isEmpty := by
    decide +kernel
  have schema : checkSchema (.obj (calling name).workflow.inputSchema) "input_schema" = .ok () := by
    cbv
  have valid : validate (calling name) = .ok () := validate_eq_ok_iff.2
    ⟨["input_as_text"], rfl, List.isEmpty_iff.1 (sound name listed), schema⟩
  unfold loadGraph
  rw [read name listed]
  exact checkedGraph_eq_ok_iff.2 ⟨rfl, valid⟩

theorem calling_compiles (listed : name ∈ calledNames) :
    ∃ source, compile (callingDocument name) {} = .ok source := by
  have free : ∀ name ∈ calledNames, name ∉ reservedNames {} ∧ Target.isKeyword name = false := by
    decide +kernel
  have started : start (calling name) {} = .ok (⟨calling name, {}, [calledTool name]⟩,
      { symbols := firstSymbols {} [calledTool name] }) :=
    start_eq_ok_iff.2 ⟨_, collectTools_calling name,
      forall_mem_singleton.2 (free name listed), rfl, rfl⟩
  have generated : ∀ name ∈ calledNames, (generate ⟨calling name, {}, [calledTool name]⟩
      { symbols := firstSymbols {} [calledTool name] }).1.isOk = true := by decide +kernel
  obtain ⟨source, last, done⟩ := Stoppable.exists_ok (generated name listed)
  refine ⟨source, Except.bind_eq_ok.2 ⟨calling name, loadGraph_calling listed, ?_⟩⟩
  exact generateSource_eq_ok_iff.2 ⟨_, _, last, started, done⟩

/-- The names of the workflow can be used: that of its tool, of the parameter and of the input. -/
theorem lookup_names_usable : ∃ source, compile (callingDocument "lookup") {} = .ok source ∧
    loadGraph (callingDocument "lookup") = .ok (calling "lookup") ∧
    Spliced (calling "lookup") "  " .tool "lookup" "def lookup(" ∧
    Spliced (calling "lookup") "  " .parameter "query" "def lookup(query: Any = None):" ∧
    Spliced (calling "lookup") "  " .inputField "input_as_text" "\n  input_as_text:" ∧
    ∀ kind name code, Spliced (calling "lookup") "  " kind name code →
      name.IsUsable ∧ code <:+: source := by
  have listed : ofString "lookup" ∈ calledNames := by decide
  obtain ⟨source, compiled⟩ := calling_compiles listed
  have loaded := loadGraph_calling listed
  obtain ⟨graph, same, written, usable⟩ := spliced_names_usable_iff compiled
  cases loaded.symm.trans same
  have collected := collectTools_calling "lookup"
  have known : calledTool "lookup" ∈ [calledTool "lookup"] := mem_singleton.2 rfl
  have parameter : (⟨"query", "Any", false⟩ : Parameter) ∈ [⟨"query", "Any", false⟩] :=
    mem_singleton.2 rfl
  refine ⟨source, compiled, loaded, .tool collected known,
    .parameter collected known rfl parameter, .inputField rfl (mem_singleton.2 rfl), ?_⟩
  intro kind name code spliced
  refine ⟨usable.2 ⟨?_, ?_⟩ kind name code spliced, written kind name code spliced⟩
  · intro name code spliced
    cases spliced with
    | tool collected' known =>
      cases collected.symm.trans collected'
      cases mem_singleton.1 known
      decide
  · intro name code spliced
    cases spliced with
    | outputField listed isAgent =>
      have none : ∀ node ∈ (calling "lookup").nodes, ∀ config, node.config ≠ .agent config :=
        forall_mem_cons.2 ⟨nofun, forall_mem_cons.2 ⟨nofun,
          forall_mem_singleton.2 nofun⟩⟩
      exact absurd isAgent (none _ listed _)

/-- A line break after the name of a tool is written into the module with the name. -/
theorem broken_tool_name_compiles :
    ∃ source, compile (callingDocument "f\n") {} = .ok source ∧
      loadGraph (callingDocument "f\n") = .ok (calling "f\n") ∧
      Spliced (calling "f\n") "  " .tool "f\n" "def f\n(" ∧
      ("def f\n(" : Text) <:+: source ∧ ¬ Text.IsUsable "f\n" := by
  have listed : ofString "f\n" ∈ calledNames := by decide
  obtain ⟨source, compiled⟩ := calling_compiles listed
  have loaded := loadGraph_calling listed
  have spliced : Spliced (calling "f\n") "  " .tool "f\n" "def f\n(" :=
    .tool (collectTools_calling "f\n") (mem_singleton.2 rfl)
  refine ⟨source, compiled, loaded, spliced, ?_, fun usable => ?_⟩
  · obtain ⟨graph, context, draft, last, route, builder, properties, record, loaded', valid,
      -, settings,
      origin⟩ := exists_origin_of_compile compiled
    cases loaded.symm.trans loaded'
    refine origin.writes_spliced valid (?_ : Spliced _ _ .tool "f\n" _)
    rw [Context.unit, settings]
    exact spliced
  · have continues := Text.all_continues_of_isIdentifier usable.1 '\n' (by decide)
    exact absurd continues (by simp [CodePoint.continuesIdentifier_break])

end AgentFlow
