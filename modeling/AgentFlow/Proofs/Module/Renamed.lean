import AgentFlow.Proofs.Linear.Coverage
import AgentFlow.Proofs.Linear.Renamed

/-!
# A workflow is compiled to the same module under other ids

What is compiled depends on the workflow as a graph only: with nodes and edges in another order,
other ids and other labels, the module is the same.  Edges are looked up by tags that occur once,
definitions of a tool agree, names are numbered in the order of the walk, and keys are not part of
the module.
-/

namespace AgentFlow

open List Workflow Emit Stoppable
open Linear (polling)

variable {rename : Equiv.Perm Text} {context : Context} {other graph : Graph}
  {tools : List FunctionTool} {settings : Settings} {workflow : Workflow} {source : Text}

/-! ## Assembling -/

namespace Module

variable {declarations others : List Declaration}

theorem appendDeclarations_alike
    (pairs : List.Forall₂ (SameDeclaration rename) declarations others) :
    ∀ written previous, appendDeclarations written previous declarations =
      appendDeclarations written previous others := by
  induction pairs with
  | nil => exact fun _ _ => rfl
  | cons pair _ ih =>
    intro written previous
    simp only [appendDeclarations, pair.lines, ih]

theorem filter_group_alike (group : Section)
    (pairs : List.Forall₂ (SameDeclaration rename) declarations others) :
    List.Forall₂ (SameDeclaration rename) (declarations.filter (·.group = group))
      (others.filter (·.group = group)) := by
  induction pairs with
  | nil => exact .nil
  | cons pair _ ih =>
    rw [filter_cons, filter_cons]
    simp only [pair.group]
    split
    · exact .cons pair ih
    · exact ih

theorem sectionLines_alike {builder other : Builder} (group : Section)
    (pairs : List.Forall₂ (SameDeclaration rename) builder.declarations other.declarations) :
    sectionLines builder group = sectionLines other group := by
  have same := filter_group_alike group pairs
  unfold sectionLines Builder.inSection
  generalize builder.declarations.filter (·.group = group) = own at same ⊢
  generalize other.declarations.filter (·.group = group) = theirs at same ⊢
  have lines : declarationLines own = declarationLines theirs :=
    congrArg (· ++ _) (appendDeclarations_alike same [] [])
  cases same with
  | nil => rfl
  | cons pair rest => exact congrArg (group.header?.toList ++ ·) lines

theorem inputFields_alongside (required : List Json) (properties : Entries) :
    StepAlike rename Eq (inputFields required properties)
      (inputFields required properties) := by
  induction properties with
  | nil => exact .pure rfl
  | cons property rest ih =>
    obtain ⟨name, schema⟩ := property
    unfold inputFields
    split
    · dsimp only
      split
      · exact (addImport_alongside _).then_ fun _ => ih.then_ fun _ => .pure rfl
      · exact ih.then_ fun _ => .pure rfl
    · exact .throw _

variable {context other : Context}

theorem inputClass_alongside (alike : context.Alike other) :
    StepAlike rename Eq (inputClass context) (inputClass other) := by
  unfold inputClass
  rw [alike.inputSchema, alike.settings]
  exact (liftError_alongside (liftShape_agree _)).then_ fun _ =>
    (liftError_alongside (liftShape_agree _)).then_ fun _ =>
      (inputFields_alongside _ _).then_ fun _ => .pure rfl

theorem assemble_alongside (alike : context.Alike other) (body : Statement) :
    StepAlike rename Eq (assemble context body) (assemble other body) := by
  unfold assemble
  rw [unit_eq alike, alike.settings]
  refine (inputClass_alongside alike).then_ fun record => ?_
  refine (Alongside.forM (fun wanted _ equal => equal ▸ addImport_alongside wanted)
    (forall₂_same.2 fun _ _ => rfl)).then_ fun _ => ?_
  refine Alongside.get.bind fun draft draft' same => .pure ?_
  have sections : Section.all.flatMap (sectionLines draft.module) =
      Section.all.flatMap (sectionLines draft'.module) :=
    congrArg (Section.all.flatMap ·)
      (funext fun group => sectionLines_alike group same.declarations)
  simp only [same.imports, sections]

end Module

/-! ## Generating -/

theorem generate_alongside {other : Context} (alike : context.Alike other)
    (renames : Renames rename context.graph.workflow other.graph.workflow)
    (checked : Checked context.graph) (checked' : Checked other.graph) :
    StepAlike rename Eq (generate context) (generate other) := by
  unfold generate body
  refine (Linear.linearize_alongside renames checked checked'
    fun node node' path path' id config same =>
      notingEmitter_alongside alike id config same.names).then_ fun block => ?_
  refine (Module.assemble_alongside alike _).then_ fun source => ?_
  exact Alongside.get.bind fun _ _ _ => (note_alongside _ _ _ _ _ _).then_ fun _ => .pure rfl

/-! ## Starting -/

theorem definitions_renamed (renames : Renames rename graph.workflow other.workflow) :
    ((definitions other.nodes).map Prod.snd).Perm ((definitions graph.nodes).map Prod.snd) := by
  have configs := renames.nodes.map Prod.snd
  rw [map_map, map_map] at configs
  have tools (nodes : List Node) : (definitions nodes).map Prod.snd =
      (nodes.map Node.config).flatMap fun config => toolsOf { id := [], config } := by
    rw [definitions, map_flatMap, flatMap_map]
    refine congrArg (nodes.flatMap ·) (funext fun node => ?_)
    rw [map_map]
    exact map_id _
  rw [tools, tools]
  exact configs.flatMap_right _

theorem collectTools_renamed (renames : Renames rename graph.workflow other.workflow)
    (collected : collectTools graph = .ok tools) :
    ∃ others, collectTools other = .ok others ∧ SameTools tools others := by
  have gathered := collected_of_collectTools collected
  have same := definitions_renamed renames
  obtain ⟨others, done⟩ : ∃ others, collectTools other = .ok others := by
    rw [collectTools_eq]
    exact (gathered.compatible.perm same.symm).addAll collected_nil
  exact ⟨others, done, gathered.sameTools (collected_of_collectTools done) fun _ =>
    same.mem_iff.symm⟩

theorem mem_names_of_sameTools {others : List FunctionTool} (same : SameTools tools others)
    (name : Text) : name ∈ tools.map FunctionTool.name ↔ name ∈ others.map FunctionTool.name := by
  have found (list : List FunctionTool) :
      name ∈ list.map FunctionTool.name ↔ (list.find? (·.name = name)).isSome = true := by
    simp
  have pair := same name
  rw [found, found]
  generalize tools.find? (·.name = name) = own at pair ⊢
  generalize others.find? (·.name = name) = theirs at pair ⊢
  cases pair <;> rfl

theorem toolNamed_same {other : Context} (same : SameTools context.tools other.tools)
    (tool : FunctionTool) : SameTool (toolNamed context tool) (toolNamed other tool) := by
  have pair := same tool.name
  unfold toolNamed
  generalize context.tools.find? (·.name = tool.name) = own at pair ⊢
  generalize other.tools.find? (·.name = tool.name) = theirs at pair ⊢
  cases pair with
  | none => exact .refl tool
  | some pair => exact pair

theorem start_renamed {draft : Draft} (renames : Renames rename graph.workflow other.workflow)
    (started : start graph settings = .ok (context, draft)) :
    ∃ context' draft', start other settings = .ok (context', draft') ∧ context'.graph = other ∧
      context.Alike context' ∧ draft.Alike rename draft' := by
  obtain ⟨tools, collected, free, rfl, rfl⟩ := start_eq_ok_iff.1 started
  obtain ⟨others, collected', same⟩ := collectTools_renamed renames collected
  have names := mem_names_of_sameTools same
  have free' : ∀ tool ∈ others,
      tool.name ∉ reservedNames settings ∧ Target.isKeyword tool.name = false := by
    intro tool listed
    obtain ⟨tool', listed', named⟩ := mem_map.1 ((names _).2 (mem_map_of_mem listed))
    rw [← named]
    exact free tool' listed'
  refine ⟨_, _, start_eq_ok_iff.2 ⟨others, collected', free', rfl, rfl⟩, rfl, ?_, ?_⟩
  · exact ⟨rfl, renames.inputSchema.symm, renames.inputTextField.symm, renames.state.symm,
      toolNamed_same same⟩
  · exact ⟨SymbolTable.reserveAll_alike _ names, rfl, .nil⟩

/-! ## Compiling -/

/-- Compiles a workflow that has been read. -/
def compileWorkflow (workflow : Workflow) (settings : Settings) : Except Error Text := do
  generateSource (← checkedGraph workflow) settings

theorem compile_eq (payload : Payload) (settings : Settings) :
    compile payload settings = payload.workflow >>= (compileWorkflow · settings) := by
  unfold compile loadGraph compileWorkflow
  cases payload.workflow <;> rfl

theorem checkedGraph_eq_ok_iff :
    checkedGraph workflow = .ok graph ↔ graph.workflow = workflow ∧ validate graph = .ok () := by
  constructor
  · intro loaded
    obtain ⟨built, done, rest⟩ := Except.bind_eq_ok.1 loaded
    obtain ⟨_, valid, same⟩ := Except.bind_eq_ok.1 rest
    cases Except.pure_eq_ok.1 same
    unfold Graph.build at done
    split at done
    · cases done
      exact ⟨rfl, valid⟩
    · cases done
  · rintro ⟨rfl, valid⟩
    unfold checkedGraph Graph.build
    rw [dif_pos graph.distinct]
    show (validate graph >>= fun _ => pure graph) = .ok graph
    rw [valid]
    rfl

theorem generateSource_eq_ok_iff :
    generateSource graph settings = .ok source ↔ ∃ context draft last,
      start graph settings = .ok (context, draft) ∧
      generate context draft = (.ok source, last) := by
  unfold generateSource generateNoting
  constructor
  · intro done
    split at done
    · cases done
    · rename_i context draft started
      exact ⟨context, draft, _, started, Prod.ext done rfl⟩
  · rintro ⟨context, draft, last, started, done⟩
    rw [started]
    exact congrArg Prod.fst done

/-- A permutation of the ids changes nothing. -/
theorem compileWorkflow_renamed {other : Workflow} (renames : Renames rename workflow other)
    (compiled : compileWorkflow workflow settings = .ok source) :
    compileWorkflow other settings = .ok source := by
  obtain ⟨graph, loaded, generated⟩ := Except.bind_eq_ok.1 compiled
  obtain ⟨rfl, valid⟩ := checkedGraph_eq_ok_iff.1 loaded
  obtain ⟨context, draft, last, started, done⟩ := generateSource_eq_ok_iff.1 generated
  obtain ⟨rfl, _⟩ := start_eq_ok started
  have distinct : (other.nodes.map Node.id).Nodup :=
    renames.ids_perm.nodup_iff.2 (context.graph.distinct.map rename.injective)
  obtain ⟨renamed, rfl⟩ : ∃ renamed : Graph, renamed.workflow = other := ⟨⟨other, distinct⟩, rfl⟩
  have valid' := validate_renamed renames valid
  obtain ⟨context', draft', started', rfl, alike, begun⟩ := start_renamed renames started
  obtain ⟨_, last', done', rfl, _⟩ := generate_alongside alike renames (checked_of_validate valid)
    (checked_of_validate valid') begun done
  exact Except.bind_eq_ok.2 ⟨context'.graph, checkedGraph_eq_ok_iff.2 ⟨rfl, valid'⟩,
    generateSource_eq_ok_iff.2 ⟨context', draft', last', started', done'⟩⟩

/-- **The module of a workflow depends on the workflow as a graph only.**  If a workflow compiles,
it compiles to the same module when its nodes and edges stand in another order, when its ids are
replaced by others that are kept apart, and when labels and the name change. -/
theorem source_depends_on_graph {rename : Text → Text} {workflow other : Workflow}
    {settings : Settings} {source : Text} (renames : Renames rename workflow other)
    (apart : Set.InjOn rename {id | id ∈ workflow.nodes.map Node.id})
    (compiled : compileWorkflow workflow settings = .ok source) :
    compileWorkflow other settings = .ok source ∧
      ∀ payload : Payload, payload.workflow = .ok other →
      compile payload settings = .ok source := by
  obtain ⟨perm, extends_⟩ := exists_perm_of_injOn _ apart
  obtain ⟨graph, loaded, _⟩ := Except.bind_eq_ok.1 compiled
  obtain ⟨rfl, valid⟩ := checkedGraph_eq_ok_iff.1 loaded
  have checked := checked_of_validate valid
  obtain ⟨start, entry, _⟩ := checked.entry
  have permutes : Renames perm graph.workflow other := by
    refine renames.congr (extends_ _ ?_).symm (fun node listed => ?_) fun edge listed => ?_
    · exact Graph.mem_nodeIds_iff.2 ⟨start, entry⟩
    · exact (extends_ _ (mem_map_of_mem listed)).symm
    · obtain ⟨source, target⟩ := checked.joined edge listed
      exact ⟨(extends_ _ source).symm, (extends_ _ target).symm⟩
  have same := compileWorkflow_renamed permutes compiled
  refine ⟨same, fun payload read => ?_⟩
  rw [compile_eq, read]
  exact same

/-- The loop of another example under longer ids, its nodes listed from the end, with a name and a
label. -/
def renamedPolling : Workflow where
  name := some "poll"
  entryId := "n-s"
  inputSchema := [("properties", .obj [("input_as_text", .obj [])])]
  nodes := [{ id := "n-e", config := .finish {} }, { id := "n-b", config := .branch ["true"] },
    { id := "n-w", label := some "wait", config := .loop "true" },
    { id := "n-s", config := .start }]
  edges := [{ source := "n-w", target := "n-e", tag := .loopExit },
    { source := "n-b", target := "n-e", tag := .no },
    { source := "n-b", target := "n-w", tag := .yes },
    { source := "n-w", target := "n-b", tag := .loopBody }, { source := "n-s", target := "n-w" }]

theorem renamedPolling_renames : Renames ("n-" ++ ·) polling renamedPolling where
  entry := rfl
  state := rfl
  inputSchema := rfl
  inputTextField := rfl
  nodes := by
    show (polling.nodes.map fun node => (("n-" : Text) ++ node.id, node.config)).reverse.Perm _
    exact reverse_perm _
  edges := by
    show (polling.edges.map (Edge.renamed (("n-" : Text) ++ ·))).reverse.Perm _
    exact reverse_perm _

theorem polling_compiles : ∃ source, compileWorkflow polling {} = .ok source := by
  have loaded : checkedGraph polling = .ok Linear.pollingContext.graph :=
    checkedGraph_eq_ok_iff.2 ⟨rfl, Linear.polling_valid⟩
  unfold compileWorkflow
  rw [loaded]
  exact Except.exists_ok (show (generateSource Linear.pollingContext.graph {}).isOk by
    decide +kernel)

/-- The loop compiles to the same module under both kinds of ids. -/
theorem renamedPolling_compiles : ∃ source, compileWorkflow polling {} = .ok source ∧
    compileWorkflow renamedPolling {} = .ok source := by
  obtain ⟨source, compiled⟩ := polling_compiles
  have apart : Set.InjOn (("n-" : Text) ++ ·) {id | id ∈ polling.nodes.map Node.id} :=
    fun _ _ _ _ => append_cancel_left
  exact ⟨source, compiled, (source_depends_on_graph renamedPolling_renames apart compiled).1⟩

end AgentFlow
