import AgentFlow.Proofs.Module.Captured

/-!
# When the type of all values is imported

Generated code annotates fields of the input class, parameters of tools, and fields of the classes
of answers, and each of the three places decides on its own whether the type of all values has to be
imported.  An import line names it exactly if such an annotation stands in the text of the module.
-/

namespace AgentFlow

open List Text Workflow Emit

/-! ## Import lines -/

namespace Module

/-- The lines of a module that import names: those before the first empty one. -/
def importBlock (source : Text) : List Text := source.lines.takeWhile (· ≠ [])

/-- A line of a module imports a name, maybe among others. -/
def Imports (source : Text) (wanted : Import) : Prop :=
  ∃ names, wanted.name ∈ names ∧
    ("from " ++ wanted.source ++ " import " ++ join ", " names) ∈ importBlock source

theorem exists_group {imports : List Import} {wanted : Import} (listed : wanted ∈ imports) :
    ∃ names, (wanted.source, names) ∈ groupImports imports ∧ wanted.name ∈ names := by
  induction imports using List.reverseRecOn with
  | nil => cases listed
  | append_singleton rest last ih =>
    unfold groupImports at ih ⊢
    rw [foldl_append, foldl_cons, foldl_nil]
    rcases mem_append.1 listed with before | same
    · obtain ⟨names, among, inside⟩ := ih before
      split
      · by_cases joins : wanted.source = last.source ∧ last.name ∉ names
        · exact ⟨_, mem_map.2 ⟨_, among, if_pos joins⟩, mem_append_left _ inside⟩
        · exact ⟨_, mem_map.2 ⟨_, among, if_neg joins⟩, inside⟩
      · exact ⟨names, mem_append_left _ among, inside⟩
    · cases mem_singleton.1 same
      split
      · next known =>
          obtain ⟨⟨source, names⟩, among, same⟩ := any_eq_true.1 known
          cases (of_decide_eq_true same : source = wanted.source)
          by_cases inside : wanted.name ∈ names
          · exact ⟨_, mem_map.2 ⟨_, among, if_neg fun joins => joins.2 inside⟩, inside⟩
          · exact ⟨_, mem_map.2 ⟨_, among, if_pos ⟨rfl, inside⟩⟩, by simp⟩
      · exact ⟨[wanted.name], by simp, by simp⟩

variable {context : Context} {builder : Builder} {record : Schema.RecordClass} {body : Statement}

theorem importBlock_written (known : Known builder.imports) :
    importBlock (written context builder record body) = importLines builder.imports := by
  have solid : ∀ line ∈ importLines builder.imports, line.Solid := fun line listed =>
    let ⟨_, _, _, solid, _⟩ := importLines_known known listed
    solid
  have each : (importLines builder.imports).flatMap (fun line => line.trimEnd.lines) =
      (importLines builder.imports).flatMap fun line => [line] :=
    flatMap_congr fun line listed => by
      rw [(solid line listed).trimEnd, lines_of_oneLine (solid line listed).one]
  unfold importBlock
  rw [lines_written, preamble]
  simp only [flatMap_append, append_assoc, each, flatMap_singleton']
  rw [takeWhile_append_of_pos fun line listed => decide_eq_true (solid line listed).ne_nil]
  simp [Text.trimEnd, lines, Text.splitOn]

theorem imports_any_iff (known : Known builder.imports) :
    Imports (written context builder record body) anyImport ↔ anyImport ∈ builder.imports := by
  unfold Imports
  rw [importBlock_written known]
  constructor
  · rintro ⟨names, -, listed⟩
    obtain ⟨source, others, same, -, some, inside⟩ := importLines_known known listed
    obtain ⟨name, among⟩ := exists_mem_of_ne_nil _ some
    have unique : ∀ wanted ∈ knownImports,
        (("from " ++ wanted.source ++ " import " : Text) <+: Text.ofString "from typing import " ∨
          Text.ofString "from typing import " <+: ("from " ++ wanted.source ++ " import " : Text)) →
        wanted = anyImport := by decide
    have imported := inside name among
    have starts := prefix_or_prefix_of_prefix (prefix_append _ _) (same ▸ prefix_append _ _)
    exact unique _ (known _ imported) starts ▸ imported
  · intro listed
    obtain ⟨names, among, inside⟩ := exists_group listed
    exact ⟨names, inside, mem_map_of_mem among⟩

end Module

/-! ## Types -/

namespace Schema

/-- The type of all values, or a list of it at some depth. -/
inductive AnyNested : Text → Prop
  | any : AnyNested anyType
  | list {type} (inner : AnyNested type) : AnyNested ("list[" ++ type ++ "]")

namespace AnyNested

variable {type : Text}

theorem eq_or_mem (nested : AnyNested type) : type = anyType ∨ ('[' : CodePoint) ∈ type := by
  cases nested with
  | any => exact .inl rfl
  | list => exact .inr (mem_append_left _ (mem_append_left _ (by decide)))

theorem ends (nested : AnyNested type) :
    ∃ front last, type = front ++ [last] ∧ last.isBlank = false := by
  cases nested with
  | any => exact ⟨"An", 'y', rfl, rfl⟩
  | list => exact ⟨_, ']', rfl, rfl⟩

theorem of_list (nested : AnyNested ("list[" ++ type ++ "]")) : AnyNested type := by
  generalize same : Text.ofString "list[" ++ type ++ Text.ofString "]" = whole at nested
  cases nested with
  | any => cases same
  | list inner => exact append_cancel_left (append_cancel_right same) ▸ inner

end AnyNested

variable {schema : Json} {base name : Text}

theorem anyNested_typeName_iff : AnyNested (typeName schema) ↔ typeName schema = anyType :=
  ⟨fun nested => nested.eq_or_mem.resolve_right
    ((show ∀ type ∈ anyType :: builtinTypes.map Prod.snd,
    ('[' : CodePoint) ∉ type by decide) _ (typeName_mem schema)), fun same => same ▸ .any⟩

theorem Annotates.anyNested_iff {cls type : Text} (annotates : Annotates cls schema type)
    (other : ¬ AnyNested cls) : AnyNested type ↔ Loose schema := by
  induction annotates with
  | plain bare => rw [anyNested_typeName_iff, loose_iff_of_bare bare]
  | object isObject some => exact iff_of_false other (not_loose_of_object isObject some)
  | items isArray found _ ih =>
    rw [loose_items_iff isArray found, ← ih]
    exact ⟨.of_list, .list⟩

theorem not_anyNested_class (named : (pascal base ++ "Schema").Extends name) (place : Place)
    (property : Text) : ¬ AnyNested (classAt name place ++ "__" ++ pascal property) := by
  have bracket : Uncapital '[' := by decide +kernel
  intro nested
  rcases nested.eq_or_mem with same | member
  · obtain ⟨digits, rfl, -⟩ := named
    have short := congrArg List.length same
    simp [classAt, anyType, Text.ofString, Text.ofChars] at short
    omega
  · have absent : ('[' : CodePoint) ∉ name := named.notMem (by decide) fun member =>
      (mem_append.1 member).elim (notMem_pascal bracket base) (by decide)
    rcases mem_append.1 member with before | after
    · exact (mem_append.1 before).elim (notMem_classAt bracket (by decide) absent place) (by decide)
    · exact notMem_pascal bracket property after

/-- An object at some depth has a property of any type exactly if a class has such a field. -/
theorem hasLoose_iff {place : Text} {schema : Entries} {made : Typed}
    (named : (pascal base ++ "Schema").Extends name)
    (done : recordClass place name schema = .ok made) :
    HasLoose schema ↔ ∃ cls ∈ made.classes, ∃ field ∈ cls.fields, AnyNested field.type := by
  obtain ⟨_, objects, mirror, members, _⟩ := recordClass_mirrors schema done
  constructor
  · rintro ⟨place, record, reached, property, listed, loose⟩
    obtain ⟨cls, among, mirrors⟩ := exists_of_mem_right mirror.each ((members _ _).2 reached)
    obtain ⟨field, inside, mirrored⟩ := exists_of_mem_right mirrors.fields listed
    exact ⟨cls, among, field, inside,
      (mirrored.type.anyNested_iff (not_anyNested_class named _ _)).2 loose⟩
  · rintro ⟨cls, among, field, inside, nested⟩
    obtain ⟨⟨place, record⟩, listed, mirrors⟩ := exists_of_mem_left mirror.each among
    obtain ⟨property, own, mirrored⟩ := exists_of_mem_left mirrors.fields inside
    exact ⟨place, record, (members _ _).1 listed, property, own,
      (mirrored.type.anyNested_iff (not_anyNested_class named _ _)).1 nested⟩

end Schema

/-! ## Annotations -/

def annotated (unit name type : Text) : Text := "\n" ++ unit ++ name ++ ": " ++ type

/-- The type of an annotation that is generated for a graph, with the code that it stands in. -/
inductive Annotation (graph : Graph) (unit : Text) : Text → Text → Prop
  | inputField {properties : Entries} {name : Text} {schema : Json}
      (read : (graph.workflow.inputSchema.getOr "properties" (.obj [])).entries = .ok properties)
      (member : (name, schema) ∈ properties) :
      Annotation graph unit (Schema.typeName schema) (annotated unit name (Schema.typeName schema))
  | parameter {tools : List FunctionTool} {tool : FunctionTool} {found : List Parameter}
      {parameter : Parameter} (collected : collectTools graph = .ok tools) (known : tool ∈ tools)
      (listed : parameters tool = .ok found) (member : parameter ∈ found) :
      Annotation graph unit parameter.type (signature tool found)
  | outputField {node : Node} {config : AgentConfig} {schema : Entries} {place name : Text}
      {made : Schema.Typed} {cls : Schema.RecordClass} {field : Schema.Field}
      (listed : node ∈ graph.nodes) (isAgent : node.config = .agent config)
      (asked : .obj schema ∈ config.outputFormat.given)
      (named : (Schema.pascal config.name ++ "Schema").Extends name)
      (done : Schema.recordClass place name schema = .ok made) (among : cls ∈ made.classes)
      (inside : field ∈ cls.fields) :
      Annotation graph unit field.type (annotated unit field.name field.type)

variable {context : Context}

/-- The line of a field that is written starts with the name and the type, where the type is not cut
off at its end. -/
theorem Module.annotated_written {builder : Builder} {record : Schema.RecordClass}
    {body : Statement} {field : Schema.Field} (nested : Schema.AnyNested field.type)
    (stands : (.scalar '\n' :: (field.line context.unit).trimEnd) <:+:
      written context builder record body) :
    annotated context.unit field.name field.type <:+: written context builder record body := by
  obtain ⟨front, last, type, visible⟩ := nested.ends
  refine List.IsInfix.trans (List.IsPrefix.isInfix ?_) stands
  have shape : field.line context.unit = (context.unit ++ field.name ++ ": " ++ front) ++ last ::
      (if field.required then [] else " | None = None") := by
    simp [Schema.Field.line, type]
  rw [shape, annotated, type]
  refine List.IsPrefix.trans ?_ (cons_prefix_cons.2 ⟨rfl, Text.prefix_trimEnd visible⟩)
  simp [Text.ofString, Text.ofChars]

theorem Emit.needsAny_of_mem_toolsOf {node : Node} {tool : FunctionTool}
    (used : tool ∈ toolsOf node) (takes : TakesAny (toolNamed context tool)) :
    NeedsAny context node.config := by
  unfold toolsOf at used
  split at used
  · next call isCall =>
      cases mem_singleton.1 used
      exact isCall ▸ .call takes
  · next config isAgent =>
      obtain ⟨definition, among, chosen⟩ := mem_filterMap.1 used
      cases definition with
      | webSearch => cases chosen
      | function => cases chosen; exact isAgent ▸ .tool among takes
  · cases used

namespace Origin

variable {graph : Graph} {context : Context} {draft last : Draft} {route : Linear.Route}
  {builder : Module.Builder} {properties : Entries} {record : Schema.RecordClass} {source : Text}
  (origin : Origin graph context draft last route builder properties record source)
  {call : Linear.Call}

include origin

theorem any_imported : anyImport ∈ builder.imports ↔
    (∃ call ∈ route.calls, NeedsAny context call.node.config) ∨
      ∃ property ∈ properties, Schema.typeName property.2 = Schema.anyType := by
  rw [origin.imported, or_iff_left (show anyImport ∉ Module.baseImports by decide)]
  refine or_congr (exists_congr fun call => and_congr_right fun called =>
    (origin.asks call called).2.any) (exists_congr fun property => and_congr_right fun _ => ?_)
  unfold Module.inputImport
  split <;> simp [*]

/-- A tool of a node on the way that takes values of any type is annotated so. -/
theorem annotates_tool (valid : validate graph = .ok ()) {tool : FunctionTool}
    (called : call ∈ route.calls) (used : tool ∈ toolsOf call.node)
    (takes : TakesAny (toolNamed context tool)) :
    ∃ type code, Annotation graph context.unit type code ∧ code <:+: source ∧
      Schema.AnyNested type := by
  obtain ⟨_, collecting, _⟩ := start_eq_ok origin.started
  have known : toolNamed context tool ∈ context.tools :=
    (stocked_of_start origin.started (origin.node_mem called)).toolNamed_mem used
  obtain ⟨found, listed, parameter, member, any⟩ := takes
  exact ⟨_, _, .parameter collecting known listed member, origin.writes_spliced valid
    (.parameter collecting known listed member), any ▸ .any⟩

theorem annotates_answer {config : AgentConfig} {schema : Entries} (called : call ∈ route.calls)
    (isAgent : call.node.config = .agent config) (asked : .obj schema ∈ config.outputFormat.given)
    (loose : Schema.HasLoose schema) :
    ∃ type code, Annotation graph context.unit type code ∧ code <:+: source ∧
      Schema.AnyNested type := by
  obtain ⟨place, name, typed, named, made, declaration, declared, lines⟩ :=
    (origin.introduces call called).classes config isAgent schema asked
  obtain ⟨cls, among, field, inside, nested⟩ := (Schema.hasLoose_iff named made).1 loose
  refine ⟨_, _, .outputField (origin.node_mem called) isAgent asked named made among inside,
    ?_, nested⟩
  rw [origin.text]
  refine Module.annotated_written nested (Module.infix_written (mem_append_left _ ?_))
  exact Module.mem_sections ((origin.declared _).2 ⟨call, called, declared⟩)
    (lines cls among _ (Module.line_mem_header inside)) (Module.isBlank_line _ _)

theorem annotates_input {property : Text × Json} (member : property ∈ properties)
    (any : Schema.typeName property.2 = Schema.anyType) :
    ∃ type code, Annotation graph context.unit type code ∧ code <:+: source ∧
      Schema.AnyNested type := by
  obtain ⟨same, -, -⟩ := start_eq_ok origin.started
  obtain ⟨required, fields⟩ := origin.isClass.fields
  have nested : Schema.AnyNested (Module.inputField required property).type :=
    Schema.anyNested_typeName_iff.2 any
  have inside : Module.inputField required property ∈ record.fields :=
    fields ▸ mem_map_of_mem member
  refine ⟨_, _, .inputField (same ▸ origin.isClass.given) member, ?_, nested⟩
  rw [origin.text]
  exact Module.annotated_written nested
    (Module.infix_written (mem_append_right _ (Module.line_mem_header inside)))

theorem imports_annotated (valid : validate graph = .ok ()) {type code : Text}
    (annotated : Annotation graph context.unit type code) (nested : Schema.AnyNested type) :
    anyImport ∈ builder.imports := by
  obtain ⟨same, collecting, _⟩ := start_eq_ok origin.started
  rw [origin.any_imported]
  cases annotated with
  | inputField read member =>
    have read' := origin.isClass.given
    rw [same] at read'
    cases read.symm.trans read'
    exact .inr ⟨_, member, Schema.anyNested_typeName_iff.1 nested⟩
  | parameter collected known listed member =>
    cases collecting.symm.trans collected
    obtain ⟨call, called, used, named⟩ := origin.uses_tools valid known
    obtain ⟨schema, type⟩ := (parameters_fit listed _ member).typed
    rw [type, Schema.anyNested_typeName_iff, ← type] at nested
    exact .inl ⟨call, called, needsAny_of_mem_toolsOf used
      ⟨_, named.symm ▸ listed, _, member, nested⟩⟩
  | outputField listed isAgent asked named done among inside =>
    obtain ⟨call, called, rfl⟩ := origin.follows.exists_call valid listed
    refine .inl ⟨call, called, isAgent ▸ .answer asked ?_⟩
    exact (Schema.hasLoose_iff named done).2 ⟨_, among, _, inside, nested⟩

end Origin

/-- **When the type of all values is imported.**  If a payload compiles, an import line of its
module names the type of all values exactly if a field of the input class, a parameter of a tool or
a field of a class for an answer stands in the module with this type, or with a list of it at some
depth. -/
theorem any_imported_iff_annotated {payload : Payload} {settings : Settings} {source : Text}
    (compiled : compile payload settings = .ok source) :
    ∃ graph, loadGraph payload = .ok graph ∧ (Module.Imports source ⟨"typing", "Any"⟩ ↔
      ∃ type code, Annotation graph settings.unit type code ∧ code <:+: source ∧
        Schema.AnyNested type) := by
  obtain ⟨graph, context, draft, last, route, builder, properties, record, loaded, valid, -, rfl,
    origin⟩ := exists_origin_of_compile compiled
  have imports : Module.Imports source anyImport ↔ anyImport ∈ builder.imports :=
    origin.text ▸ Module.imports_any_iff origin.imports_known
  refine ⟨graph, loaded, imports.trans ⟨fun imported => ?_, ?_⟩⟩
  · rcases origin.any_imported.1 imported with ⟨call, called, needs⟩ | ⟨property, member, any⟩
    · generalize isConfig : call.node.config = config at needs
      cases needs with
      | call takes => exact origin.annotates_tool valid called (by simp [toolsOf, isConfig]) takes
      | tool used takes =>
        refine origin.annotates_tool valid called ?_ takes
        simp only [toolsOf, isConfig]
        exact mem_filterMap.2 ⟨_, used, rfl⟩
      | answer asked loose => exact origin.annotates_answer called isConfig asked loose
    · exact origin.annotates_input member any
  · rintro ⟨type, code, annotated, -, nested⟩
    exact origin.imports_annotated valid annotated nested

/-- The input and the tool of a workflow take values of any type, so the type is imported. -/
theorem lookup_imports_any :
    ∃ source, compile (callingDocument "lookup") {} = .ok source ∧
      Module.Imports source ⟨"typing", "Any"⟩ := by
  have listed : Text.ofString "lookup" ∈ calledNames := by decide
  obtain ⟨source, compiled⟩ := calling_compiles listed
  obtain ⟨graph, loaded, imports⟩ := any_imported_iff_annotated compiled
  cases (loadGraph_calling listed).symm.trans loaded
  obtain ⟨_, context, draft, last, route, builder, properties, record, loaded', valid, -, settings,
    origin⟩ := exists_origin_of_compile compiled
  cases loaded.symm.trans loaded'
  have parameter : (⟨"query", "Any", false⟩ : Parameter) ∈ [⟨"query", "Any", false⟩] :=
    mem_singleton.2 rfl
  have collected := collectTools_calling "lookup"
  have known : calledTool "lookup" ∈ [calledTool "lookup"] := mem_singleton.2 rfl
  refine ⟨source, compiled, imports.2 ⟨_, _, .parameter collected known rfl parameter, ?_, .any⟩⟩
  exact origin.writes_spliced valid (.parameter collected known rfl parameter)

end AgentFlow
