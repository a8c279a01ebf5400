import AgentFlow.Proofs.Emit.Admitted
import AgentFlow.Proofs.Linear.Quiet
import AgentFlow.Proofs.Module.Spliced

/-!
# Names that a module captures

If a module binds a function or type that generated code uses without importing it, the code means
something else.  What a module binds is read from its text: the lines before the entry point, and
those of the entry point without their indentation.  Only a function tool of that name captures one.
-/

namespace AgentFlow

open List Text Workflow Emit Stoppable
open Text (ofString repeated)

/-! ## What a module binds -/

namespace Module

/-- The lines that bind names for the code of the entry point: those before it as they stand, and
those from it on without their indentation. -/
def outline (settings : Settings) (source : Text) : List Text :=
  source.lines.takeWhile (· ≠ entryLine settings) ++
    (source.lines.dropWhile (· ≠ entryLine settings)).map trimStart

/-- Whether a module binds a name at its top or in its entry point. -/
def captures (settings : Settings) (source name : Text) : Bool :=
  (outline settings source).any (·.binds name)

/-! ### Imports -/

/-- Groups of names that are to be imported, none of them empty. -/
def Grouped (imports : List Import) (groups : List (Text × List Text)) : Prop :=
  ∀ group ∈ groups, group.2 ≠ [] ∧ ∀ name ∈ group.2, (⟨group.1, name⟩ : Import) ∈ imports

theorem grouped_groupImports (imports : List Import) : Grouped imports (groupImports imports) := by
  unfold groupImports
  refine List.foldlRecOn (motive := Grouped imports) imports _ (forall_mem_nil _)
    fun groups grouped wanted listed => ?_
  split
  · intro group member
    obtain ⟨⟨source, names⟩, among, rfl⟩ := mem_map.1 member
    obtain ⟨some, known⟩ := grouped _ among
    dsimp only
    split
    · next joins =>
        obtain ⟨rfl, -⟩ := joins
        exact ⟨by simp, forall_mem_append.2 ⟨known, forall_mem_singleton.2 listed⟩⟩
    · exact ⟨some, known⟩
  · exact forall_mem_append.2 ⟨grouped, forall_mem_singleton.2
      ⟨by simp, forall_mem_singleton.2 listed⟩⟩

theorem solid_of_words {word : Text} (some : word ≠ []) (words : ∀ c ∈ word, c.isWord = true) :
    Solid word := by
  refine ⟨fun member => absurd (words _ member) (by decide), _, _,
    (dropLast_append_getLast some).symm, ?_⟩
  exact isBlank_of_isWord (words _ (getLast_mem some))

theorem solid_join {pieces : List Text} (some : pieces ≠ [])
    (each : ∀ piece ∈ pieces, piece.Solid) : Solid (join ", " pieces) := by
  induction pieces with
  | nil => exact absurd rfl some
  | cons piece rest ih =>
    obtain ⟨first, others⟩ := forall_mem_cons.1 each
    cases rest with
    | nil => exact first
    | cons next more => exact (ih (by simp) others).append (first.one.append (by decide))

variable {name unit : Text} {imports : List Import}

theorem mentioned_of_binds_import {rest : Text} (bound : binds ("from " ++ rest) name = true) :
    name ∈ rest.mentioned := by
  have follows : following ("from " ++ rest) = rest.trimStart := rfl
  unfold binds at bound
  rw [statement_append (by decide) (by decide), leading_append_of_any (by decide), follows] at bound
  exact mentioned_trimStart rest (of_decide_eq_true bound)

theorem importLines_known (known : Known imports) {line : Text}
    (listed : line ∈ importLines imports) :
    ∃ source names, line = "from " ++ source ++ " import " ++ join ", " names ∧ line.Solid ∧
      names ≠ [] ∧ ∀ name ∈ names, (⟨source, name⟩ : Import) ∈ imports := by
  have facts : ∀ wanted ∈ knownImports, wanted.source.OneLine ∧ wanted.name ≠ [] ∧
      (∀ c ∈ wanted.name, c.isWord = true) := by decide +kernel
  obtain ⟨⟨source, names⟩, among, rfl⟩ := mem_map.1 listed
  obtain ⟨some, inside⟩ := grouped_groupImports imports _ among
  refine ⟨source, names, rfl, ?_, some, inside⟩
  obtain ⟨first, rest, rfl⟩ := exists_cons_of_ne_nil some
  have solid : Solid (join ", " (first :: rest)) := solid_join some fun name member => by
    obtain ⟨-, some, words⟩ := facts _ (known _ (inside name member))
    exact solid_of_words some words
  obtain ⟨one, -⟩ := facts _ (known _ (inside first mem_cons_self))
  exact solid.append (((show OneLine "from " by decide).append one).append (by decide))

/-- **No import line binds a name that is taken for granted.** -/
theorem importLines_admit (known : Known imports) (names : List Text) :
    ∀ line ∈ importLines imports, line.Admits names := by
  have facts : ∀ wanted ∈ knownImports, ∀ name ∈ builtinNames,
      name ∉ wanted.source.mentioned ∧ name ∉ wanted.name.mentioned := by decide +kernel
  have reserved : ∀ name ∈ builtinNames, name ∉ mentioned "import" := by decide
  intro line listed
  obtain ⟨source, imported, rfl, solid, some, inside⟩ := importLines_known known listed
  refine admits_of_solid solid ⟨?_, fun name taken bound => ?_⟩
  · rw [append_assoc, append_assoc, leading_append_of_any (by decide)]
    decide
  · rw [append_assoc, append_assoc] at bound
    have mentions := mentioned_of_binds_import bound
    have shape : mentioned (source ++ (" import " ++ join ", " imported)) =
        source.mentioned ++ (mentioned "import" ++ mentioned (join ", " imported)) := by
      show mentioned (source ++ .scalar ' ' :: (ofString "import" ++ .scalar ' ' :: _)) = _
      rw [mentioned_append_cons (by decide), mentioned_append_cons (by decide)]
      rfl
    rw [shape, mem_append, mem_append] at mentions
    rcases mentions with within | word | within
    · obtain ⟨first, among⟩ := exists_mem_of_ne_nil imported some
      exact absurd within (facts _ (known _ (inside first among)) name taken).1
    · exact absurd word (reserved name taken)
    · rcases of_mem_mentioned_join within with rfl | ⟨other, member, within⟩
      · exact absurd taken (by decide)
      · exact absurd within (facts _ (known _ (inside other member)) name taken).2

/-! ### The entry point -/

theorem binds_handler {error : Text} (symbol : error.IsSymbol) (taken : name ∈ builtinNames) :
    binds ("except Exception as " ++ (error ++ ":")) name = false := by
  have follows : following ("except Exception as " ++ (error ++ ":")) =
      "Exception as " ++ (error ++ ":") := rfl
  have words : mentioned ("Exception as " ++ (error ++ ":")) =
      ([ofString "Exception", ofString "as", error, []] : List Text) := by
    show mentioned (ofString "Exception" ++ .scalar ' ' ::
      (ofString "as" ++ .scalar ' ' :: (error ++ .scalar ':' :: []))) = _
    simp only [mentioned_append_cons (show CodePoint.isWord ' ' = false by decide),
      mentioned_append_cons (show CodePoint.isWord ':' = false by decide),
      mentioned_word symbol.word]
    rfl
  have free : name ≠ error := fun same =>
    symbol.free (mem_append_right _ (mem_append_right _ (same ▸ taken)))
  have differs : ∀ name ∈ builtinNames, name ≠ [] ∧ name ≠ "as" := by decide
  unfold binds
  rw [statement_append (by decide) (by decide), leading_append_of_any (by decide), follows]
  dsimp only
  rw [words]
  refine decide_eq_false ?_
  simp only [tail_cons, zip_cons_cons, zip_nil_right, mem_cons, Prod.mk.injEq,
    not_mem_nil, or_false, free, differs name taken, and_false, not_false_eq_true]

theorem isGap_repeated (isUnit : unit.IsUnit) (depth : Nat) :
    ∀ c ∈ repeated depth unit, c.isGap = true := by
  intro c member
  obtain ⟨copy, copies, inside⟩ := mem_flatten.1 member
  exact isUnit c (eq_of_mem_replicate copies ▸ inside)

theorem binds_written {line : Line} (isUnit : unit.IsUnit) (spares : line.text.Spares) :
    ∀ part ∈ (line.write unit).trimEnd.lines, ∀ name ∈ builtinNames,
      part.trimStart.binds name = false := by
  intro part listed name taken
  unfold Line.write at listed
  split at listed
  · cases mem_singleton.1 listed
    exact binds_of_leading nil_notMem_watched taken
  · have margins := isGap_repeated isUnit line.depth
    rcases spares with quiet | ⟨error, symbol, handler⟩
    · have tame := (quiet.indented margins).trimEnd.lines part listed
      exact binds_of_leading (tame.trimStart (oneLine_of_mem_lines _ part listed)) taken
    · have solid : Solid ("except Exception as " ++ (error ++ ":")) :=
        (Solid.append symbol.oneLine ⟨by decide, [], ':', rfl, by decide⟩).append (by decide)
      have one : OneLine (repeated line.depth unit) := fun member =>
        absurd (margins _ member) (by decide)
      rw [handler, append_assoc, (solid.append one).trimEnd,
        lines_of_oneLine (solid.append one).one] at listed
      cases mem_singleton.1 listed
      rw [trimStart_of_oneLine (solid.append one).one, dropWhile_append_of_pos margins]
      exact binds_handler symbol taken

theorem binds_bodyLines {body : Block} (isUnit : unit.IsUnit) (quiet : Block.IsQuiet body) :
    ∀ line ∈ (bodyLines unit (.block body)).flatMap (fun line => line.trimEnd.lines),
      ∀ name ∈ builtinNames, line.trimStart.binds name = false := by
  have each : ∀ written ∈ (Statement.block body).render unit 1, ∀ part ∈ written.trimEnd.lines,
      ∀ name ∈ builtinNames, part.trimStart.binds name = false := by
    intro written rendered
    obtain ⟨line, among, rfl⟩ := mem_map.1 rendered
    exact binds_written isUnit (quiet.lines line among)
  intro line listed
  obtain ⟨written, among, part⟩ := mem_flatMap.1 listed
  unfold bodyLines at among
  dsimp only at among
  split at among
  · rcases mem_append.1 among with rendered | pass
    · exact each written rendered line part
    · cases mem_singleton.1 pass
      exact binds_written isUnit (.inl (show Quiet "pass" by decide)) line part
  · exact each written among line part

end Module

/-! ## What compiled modules capture -/

namespace Origin

variable {graph : Graph} {context : Context} {draft last : Draft} {route : Linear.Route}
  {builder : Module.Builder} {properties : Entries} {record : Schema.RecordClass} {source : Text}
  (origin : Origin graph context draft last route builder properties record source)

include origin

theorem node_mem {call : Linear.Call} (called : call ∈ route.calls) : call.node ∈ graph.nodes :=
  (Graph.node?_eq_some_iff.1 (origin.follows.known_of_call called).1).1

theorem emits (isUnit : context.unit.IsUnit)
    (plain : ∀ node ∈ graph.nodes, ∀ tool ∈ toolsOf node, tool.name.isPlainName = true) :
    ∀ call ∈ route.calls, call.path.Named → call.emission.IsQuiet := by
  have each : ∀ call ∈ route.calls, (∀ tool ∈ toolsOf call.node, tool.name.isPlainName = true) →
      call.path.Named → call.emission.IsQuiet := by
    refine Linear.survey_calls (fun node path => ?_) origin.surveyed
    intro draft last emission done plain named
    exact emission_quiet isUnit named plain done
  exact fun call called => each call called (plain _ (origin.node_mem called))

theorem imports_known : Known builder.imports := by
  intro wanted listed
  rcases (origin.imported wanted).1 listed with (⟨call, called, asked⟩ | ⟨_, _, any⟩) | always
  · exact (origin.asks call called).2.known wanted asked
  · unfold Module.inputImport at any
    split at any
    · cases mem_singleton.1 any
      decide
    · cases any
  · exact (show Known Module.baseImports by decide) wanted always

theorem entry_mem_lines (settings : context.settings = {}) :
    Module.entryLine {} ∈ source.lines := by
  have entry : (Module.entryLine {}).trimEnd.lines = [Module.entryLine {}] := by decide
  rw [origin.text, Module.lines_written, settings, entry]
  simp

variable (settings : context.settings = {})
  (plain : ∀ node ∈ graph.nodes, ∀ tool ∈ toolsOf node, tool.name.isPlainName = true)

include settings plain

/-- **Before the entry point, only the names of tools are bound.** -/
theorem preamble_admits :
    ∀ line ∈ Module.preamble context builder record,
      line.Admits (graph.nodes.flatMap toolNames) := by
  have indents : context.unit.Indents := by
    rw [Context.unit, settings]
    exact ⟨by decide, by decide⟩
  have quiet {line : Text} (quiet : line.Quiet) :
      line.Admits (graph.nodes.flatMap toolNames) := quiet.admits _
  unfold Module.preamble
  simp only [forall_mem_append]
  refine ⟨⟨⟨⟨Module.importLines_admit origin.imports_known _, ?_⟩, ?_⟩, ?_⟩, ?_⟩
  · exact forall_mem_singleton.2 (quiet (by decide))
  · intro line listed
    rcases Module.of_mem_sections listed with
      rfl | ⟨group, header⟩ | ⟨declaration, declared, inside⟩
    · exact quiet (by decide)
    · cases group <;> cases header <;> exact quiet (by decide)
    · obtain ⟨call, called, among⟩ := (origin.declared declaration).1 declared
      obtain ⟨⟨taken, later, asks⟩, -⟩ := origin.asks call called
      have listed := origin.node_mem called
      exact (asks.admits indents (plain _ listed) declaration among line inside).mono
        fun name member => mem_flatMap.2 ⟨_, listed, member⟩
  · obtain ⟨required, fields⟩ := origin.isClass.fields
    have head : Admits (graph.nodes.flatMap toolNames)
        ("class " ++ record.name ++ "(BaseModel):") := by
      rw [origin.isClass.name, settings]
      exact (show Admits [] "class WorkflowInput(BaseModel):" by decide).mono (nil_subset _)
    refine record.admits_header indents head fun field member => ?_
    rw [fields] at member
    obtain ⟨property, among, rfl⟩ := mem_map.1 member
    have checked := origin.isClass.usable property among
    simp only [Module.isInputField, Bool.and_eq_true] at checked
    exact ⟨oneLine_of_isIdentifier checked.1.1, Schema.oneLine_typeName _⟩
  · exact fun line listed => quiet
      ((show ∀ line ∈ ([[], [], ofString "# Main code entrypoint"] : List Text), line.Quiet
        by decide) line listed)

/-- The lines that bind names in a module. -/
theorem outline_eq :
    Module.outline {} source =
      (Module.preamble context builder record).flatMap (fun line => line.trimEnd.lines) ++
        (Module.entryLine {} ::
          ((Module.bodyLines context.unit (.block route.block)).flatMap
            (fun line => line.trimEnd.lines) ++ [[]])).map trimStart := by
  have entry : (Module.entryLine {}).trimEnd.lines = [Module.entryLine {}] := by decide
  have before : ∀ line ∈ (Module.preamble context builder record).flatMap
      (fun line => line.trimEnd.lines), decide (line ≠ Module.entryLine {}) = true := by
    intro line listed
    obtain ⟨whole, among, part⟩ := mem_flatMap.1 listed
    refine decide_eq_true fun same => ?_
    exact (origin.preamble_admits settings plain whole among line part).sync (same ▸ by decide)
  unfold Module.outline
  rw [origin.text, Module.lines_written, settings, entry, append_assoc, append_assoc,
    takeWhile_append_of_pos before, dropWhile_append_of_pos before]
  simp

/-- A module captures no name that is taken for granted but those of its tools. -/
theorem tool_of_captures {name : Text} (taken : name ∈ builtinNames)
    (captured : Module.captures {} source name = true) :
    ∃ node ∈ graph.nodes, ∃ tool ∈ toolsOf node, tool.name.dropLineBreak = name := by
  have isUnit : context.unit.IsUnit := by
    rw [Context.unit, settings]
    decide
  obtain ⟨line, listed, bound⟩ := any_eq_true.1 captured
  rw [origin.outline_eq settings plain] at listed
  rcases mem_append.1 listed with before | after
  · obtain ⟨whole, among, part⟩ := mem_flatMap.1 before
    have admitted := (origin.preamble_admits settings plain whole among line part).names name taken
    obtain ⟨node, known, named⟩ := mem_flatMap.1 (admitted bound)
    obtain ⟨tool, used, same⟩ := mem_map.1 named
    exact ⟨node, known, tool, used, same⟩
  · obtain ⟨code, among, rfl⟩ := mem_map.1 after
    have quiet : Block.IsQuiet route.block :=
      origin.follows.quiet (origin.emits isUnit plain) ⟨by simp, by simp⟩
    have silent : code.trimStart.binds name = false := by
      rcases mem_cons.1 among with rfl | among
      · exact (show ∀ name ∈ builtinNames, (Module.entryLine {}).trimStart.binds name = false
          by decide) name taken
      · rcases mem_append.1 among with inside | last
        · exact Module.binds_bodyLines isUnit quiet code inside name taken
        · cases mem_singleton.1 last
          exact binds_of_leading nil_notMem_watched taken
    rw [silent] at bound
    cases bound

theorem captures_tool (valid : validate graph = .ok ())
    {node : Node} {tool : FunctionTool} (listed : node ∈ graph.nodes) (used : tool ∈ toolsOf node) :
    Module.captures {} source tool.name.dropLineBreak = true := by
  obtain ⟨rfl, collecting, _⟩ := start_eq_ok origin.started
  -- another tool with the same name may have been declared in its place
  obtain ⟨known, found, _⟩ := (collected_of_collectTools collecting).found (node, tool)
    (mem_flatMap.2 ⟨node, listed, mem_map_of_mem used⟩)
  have same : known.name = tool.name := by simpa using find?_some found
  obtain ⟨declaration, declared, made⟩ :=
    origin.declares_tools valid (mem_of_find?_eq_some found)
  obtain ⟨parameters, given, _⟩ := Except.bind_eq_ok.1 made
  have stands : signature known parameters ∈ Module.preamble context builder record :=
    mem_append_left _ (mem_append_left _ (mem_append_right _
      (Module.mem_sections declared (signature_mem made given) (isBlank_signature _ _))))
  obtain ⟨-, line, part, bound⟩ := admits_toolHeader (same ▸ plain node listed tool used)
    (oneLine_parameters given)
  rw [same] at bound
  refine any_eq_true.2 ⟨line, ?_, bound⟩
  rw [origin.outline_eq settings plain]
  exact mem_append_left _ (mem_flatMap.2 ⟨_, stands, part⟩)

end Origin

/-- **What a module captures.**  If a payload compiles with the settings that are used by default,
its module has an entry point, and it binds a name that generated code takes for granted, before the
entry point or in it, exactly if a function tool of the workflow has this name. -/
theorem builtin_captured_iff_tool {payload : Payload} {source : Text}
    (compiled : compile payload {} = .ok source) :
    ∃ graph, loadGraph payload = .ok graph ∧ Module.entryLine {} ∈ source.lines ∧
      ∀ name ∈ builtinNames, Module.captures {} source name = true ↔
        ∃ node ∈ graph.nodes, ∃ tool ∈ toolsOf node, tool.name.dropLineBreak = name := by
  obtain ⟨graph, context, draft, last, route, builder, properties, record, loaded, valid,
    plain, settings,
    origin⟩ := exists_origin_of_compile compiled
  refine ⟨graph, loaded, origin.entry_mem_lines settings, fun name taken =>
    ⟨origin.tool_of_captures settings plain taken, ?_⟩⟩
  rintro ⟨node, listed, tool, used, rfl⟩
  exact origin.captures_tool settings plain valid listed used

/-- The workflow that calls a tool with a usual name captures nothing. -/
theorem lookup_captures_no_builtin :
    ∃ source, compile (callingDocument "lookup") {} = .ok source ∧
      ∀ name ∈ builtinNames, Module.captures {} source name = false := by
  have listed : ofString "lookup" ∈ calledNames := by decide
  obtain ⟨source, compiled⟩ := calling_compiles listed
  obtain ⟨graph, loaded, -, captured⟩ := builtin_captured_iff_tool compiled
  cases (loadGraph_calling listed).symm.trans loaded
  refine ⟨source, compiled, fun name taken => ?_⟩
  rw [← Bool.not_eq_true, captured name taken]
  have other : ∀ node ∈ (calling "lookup").nodes, ∀ tool ∈ toolsOf node,
      tool.name.dropLineBreak ∉ builtinNames := by
    refine forall_mem_cons.2 ⟨nofun, forall_mem_cons.2
      ⟨forall_mem_singleton.2 ?_, forall_mem_singleton.2 nofun⟩⟩
    decide
  rintro ⟨node, among, tool, used, rfl⟩
  exact other node among tool used taken

/-- A tool that is called like the function that measures a list captures it. -/
theorem tool_captures_length :
    ∃ source, compile (callingDocument "len") {} = .ok source ∧ ofString "len" ∈ builtinNames ∧
      Module.captures {} source "len" = true := by
  have listed : ofString "len" ∈ calledNames := by decide
  obtain ⟨source, compiled⟩ := calling_compiles listed
  obtain ⟨graph, context, draft, last, route, builder, properties, record, loaded, valid,
    plain, settings,
    origin⟩ := exists_origin_of_compile compiled
  cases (loadGraph_calling listed).symm.trans loaded
  obtain ⟨node, called, used⟩ : ∃ node ∈ (calling "len").nodes, calledTool "len" ∈ toolsOf node :=
    ⟨_, mem_cons_of_mem _ mem_cons_self, mem_singleton.2 rfl⟩
  exact ⟨source, compiled, by decide, origin.captures_tool settings plain valid called used⟩

end AgentFlow
