import AgentFlow.Emit.Node
import AgentFlow.Proofs.Stoppable
import AgentFlow.Proofs.Workflow.Checked

/-!
# The tools of a graph

The function tools of a graph are collected from the definitions in its nodes.  A definition is
added where its name is new, and otherwise has to agree with the one that is known.  Definitions of
one name are compared by their texts, so their integers have few enough digits to be written.
-/

namespace AgentFlow.Emit

open List Workflow

/-- The definitions of tools in nodes, with the nodes they stand in. -/
def definitions (nodes : List Node) : List (Node × FunctionTool) :=
  nodes.flatMap fun node => (toolsOf node).map (node, ·)

theorem mem_definitions_iff {nodes : List Node} {tool : FunctionTool} :
    tool ∈ (definitions nodes).map Prod.snd ↔ ∃ node ∈ nodes, tool ∈ toolsOf node := by
  simp [definitions]

/-- The parameters of a definition have a text. -/
def Writable (tool : FunctionTool) : Prop := (Json.obj tool.parameters).isWritable = true

instance : DecidablePred Writable := fun tool =>
  inferInstanceAs (Decidable ((Json.obj tool.parameters).isWritable = true))

/-- Definitions can be compared if they have to be. -/
def Comparable (first second : Node × FunctionTool) : Prop :=
  first.2.name = second.2.name → Writable first.2 ∧ Writable second.2

/-- Tools are collected from definitions. -/
structure Collected (tools : List FunctionTool) (defined : List (Node × FunctionTool)) : Prop where
  distinct : (tools.map FunctionTool.name).Nodup
  found : ∀ definition ∈ defined, ∃ known,
    tools.find? (·.name = definition.2.name) = some known ∧
      (known = definition.2 ∨ sameSignature known definition.2 = .ok true)
  comparable : defined.Pairwise Comparable
  origin : ∀ tool ∈ tools, ∃ node, (node, tool) ∈ defined ∧
    checkSchema (parameterSchema tool) (node.id ++ "." ++ tool.name ++ ".parameters") = .ok ()

variable {tools later : List FunctionTool} {defined more : List (Node × FunctionTool)} {node : Node}
  {tool : FunctionTool} {graph : Graph} {settings : Settings} {context : Context} {draft : Draft}

theorem definitionKey_eq_ok_iff {text : Option Text × Text} :
    definitionKey tool = .ok text ↔
      Writable tool ∧ text = (tool.description, parametersText tool) := by
  unfold definitionKey Writable
  split <;> simp [*, eq_comm]

theorem sameSignature_eq_ok_true_iff {other : FunctionTool} :
    sameSignature tool other = .ok true ↔ Writable tool ∧ Writable other ∧
      tool.description = other.description ∧ parametersText tool = parametersText other := by
  unfold sameSignature
  simp only [Except.bind_eq_ok, Except.pure_eq_ok, definitionKey_eq_ok_iff, decide_eq_true_eq]
  constructor
  · rintro ⟨_, ⟨writable, rfl⟩, _, ⟨writable', rfl⟩, same⟩
    exact ⟨writable, writable', Prod.mk.inj same⟩
  · rintro ⟨writable, writable', same⟩
    exact ⟨_, ⟨writable, rfl⟩, _, ⟨writable', rfl⟩, Prod.mk.injEq _ _ _ _ ▸ same⟩

theorem addTool_eq_ok : addTool node tools tool = .ok later ↔
    (∃ known, tools.find? (·.name = tool.name) = some known ∧
      sameSignature known tool = .ok true ∧ later = tools) ∨
    (tools.find? (·.name = tool.name) = none ∧
      checkSchema (parameterSchema tool) (node.id ++ "." ++ tool.name ++ ".parameters") = .ok () ∧
      later = tools ++ [tool]) := by
  unfold addTool
  cases found : tools.find? (·.name = tool.name) with
  | none =>
    dsimp only
    rw [Except.bind_eq_ok]
    constructor
    · rintro ⟨_, checked, same⟩
      exact .inr ⟨rfl, checked, (Except.pure_eq_ok.1 same).symm⟩
    · rintro (⟨_, none, _⟩ | ⟨_, checked, rfl⟩)
      · cases none
      · exact ⟨(), checked, rfl⟩
  | some known =>
    dsimp only
    rw [Except.bind_eq_ok]
    constructor
    · rintro ⟨agrees, compared, done⟩
      cases agrees with
      | true =>
        cases done
        exact .inl ⟨known, rfl, compared, rfl⟩
      | false => cases done
    · rintro (⟨_, same, agrees, rfl⟩ | ⟨none, _⟩)
      · cases same
        exact ⟨true, agrees, rfl⟩
      · cases none

theorem collected_nil : Collected [] [] := ⟨nodup_nil, by simp, .nil, by simp⟩

theorem Collected.add (collected : Collected tools defined)
    (done : addTool node tools tool = .ok later) : Collected later (defined ++ [(node, tool)]) := by
  obtain ⟨known, found, agrees, rfl⟩ | ⟨new, checked, rfl⟩ := addTool_eq_ok.1 done
  · obtain ⟨writable, writable', _⟩ := sameSignature_eq_ok_true_iff.1 agrees
    refine ⟨collected.distinct, fun definition listed => ?_, ?_, fun other listed => ?_⟩
    · rcases mem_append.1 listed with listed | here
      · exact collected.found definition listed
      · cases mem_singleton.1 here
        exact ⟨known, found, .inr agrees⟩
    · refine pairwise_append.2 ⟨collected.comparable, pairwise_singleton _ _, ?_⟩
      intro definition listed _ here names
      cases mem_singleton.1 here
      obtain ⟨known', found', same⟩ := collected.found definition listed
      rw [names, found] at found'
      cases found'
      rcases same with rfl | same
      · exact ⟨writable, writable'⟩
      · exact ⟨(sameSignature_eq_ok_true_iff.1 same).2.1, writable'⟩
    · obtain ⟨node, listed, checked⟩ := collected.origin other listed
      exact ⟨node, mem_append_left _ listed, checked⟩
  · have absent : ∀ other ∈ tools, other.name ≠ tool.name := by
      simpa using find?_eq_none.1 new
    refine ⟨?_, fun definition listed => ?_, ?_, fun other listed => ?_⟩
    · rw [map_append, nodup_append]
      refine ⟨collected.distinct, by simp, ?_⟩
      simpa using absent
    · rcases mem_append.1 listed with listed | here
      · obtain ⟨known, found, agrees⟩ := collected.found definition listed
        exact ⟨known, by rw [find?_append, found]; rfl, agrees⟩
      · cases mem_singleton.1 here
        refine ⟨tool, ?_, .inl rfl⟩
        rw [find?_append, new]
        simp
    · refine pairwise_append.2 ⟨collected.comparable, pairwise_singleton _ _, ?_⟩
      intro definition listed _ here names
      cases mem_singleton.1 here
      obtain ⟨known, found, _⟩ := collected.found definition listed
      rw [names, new] at found
      cases found
    · rcases mem_append.1 listed with listed | here
      · obtain ⟨node, listed, checked⟩ := collected.origin other listed
        exact ⟨node, mem_append_left _ listed, checked⟩
      · cases mem_singleton.1 here
        exact ⟨node, mem_append_right _ (mem_singleton.2 rfl), checked⟩

theorem Collected.addAll (collected : Collected tools defined)
    (done : more.foldlM (fun tools definition => addTool definition.1 tools definition.2) tools =
      .ok later) : Collected later (defined ++ more) := by
  induction more generalizing tools defined with
  | nil =>
    cases done
    rwa [append_nil]
  | cons definition rest ih =>
    rw [foldlM_cons] at done
    obtain ⟨middle, added, others⟩ := Except.bind_eq_ok.1 done
    have all := ih (collected.add added) others
    rwa [append_assoc] at all

theorem collectTools_eq (graph : Graph) :
    collectTools graph = (definitions graph.nodes).foldlM
      (fun tools definition => addTool definition.1 tools definition.2) [] := by
  unfold collectTools
  generalize ([] : List FunctionTool) = start
  induction graph.nodes generalizing start with
  | nil => rfl
  | cons node rest ih =>
    rw [definitions, flatMap_cons, foldlM_append, foldlM_cons, foldlM_map]
    exact congrArg _ (funext fun tools => ih tools)

/-- **Every definition has a collected tool that it agrees with.** -/
theorem collected_of_collectTools (done : collectTools graph = .ok tools) :
    Collected tools (definitions graph.nodes) := by
  rw [collectTools_eq] at done
  exact collected_nil.addAll done

/-- The symbols at the start of a compilation. -/
def firstSymbols (settings : Settings) (tools : List FunctionTool) : SymbolTable :=
  (tools.map FunctionTool.name).foldl SymbolTable.reserve
    (SymbolTable.ofReserved (reservedNames settings))

/-- A compilation starts once all tools are collected and their names are found to be free. -/
theorem start_eq_ok_iff :
    start graph settings = .ok (context, draft) ↔ ∃ tools, collectTools graph = .ok tools ∧
      (∀ tool ∈ tools, tool.name ∉ reservedNames settings ∧ Target.isKeyword tool.name = false) ∧
      context = { graph, settings, tools } ∧
      draft = { symbols := firstSymbols settings tools } := by
  have free (tools : List FunctionTool) : tools.find? (fun tool =>
      tool.name ∈ reservedNames settings || Target.isKeyword tool.name) = none ↔ ∀ tool ∈ tools,
        tool.name ∉ reservedNames settings ∧ Target.isKeyword tool.name = false := by
    simp
  unfold start
  dsimp only
  rw [Except.bind_eq_ok]
  refine exists_congr fun tools => and_congr_right fun _ => ?_
  rw [← free]
  cases tools.find? (fun tool =>
    tool.name ∈ reservedNames settings || Target.isKeyword tool.name) with
  | some tool => simp
  | none =>
    dsimp only
    rw [Except.pure_eq_ok, Prod.mk.injEq, eq_comm, @eq_comm _ _ draft]
    exact (and_iff_right rfl).symm

theorem start_eq_ok (started : start graph settings = .ok (context, draft)) :
    context.graph = graph ∧ collectTools graph = .ok context.tools ∧ draft.module = {} := by
  obtain ⟨tools, collected, _, rfl, rfl⟩ := start_eq_ok_iff.1 started
  exact ⟨rfl, collected, rfl⟩

end AgentFlow.Emit
