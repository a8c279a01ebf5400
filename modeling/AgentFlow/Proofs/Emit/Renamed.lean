import AgentFlow.Proofs.Emit.Assigning
import AgentFlow.Proofs.Emit.Declaring
import AgentFlow.Proofs.Symbol.Alike
import Mathlib.Logic.Equiv.Defs

/-!
# Emitting nodes under other ids

The id of a node goes into the keys of what the node declares and into messages, and nowhere else.
So a node emits the same under another id, apart from those keys; and what is collected in a draft
stays the same apart from them.
-/

namespace AgentFlow.Emit

open List Workflow Stoppable

variable {rename : Equiv.Perm Text}

/-! ## Keys and declarations -/

/-- What a text that follows a word in a key becomes under other ids. -/
def KeyWord.follow (rename : Text → Text) : KeyWord → Text → Text
  | agent, id => rename id
  | approval, id => rename id
  | _, rest => rest

/-- A key and what it becomes under other ids. -/
def SameKey (rename : Text → Text) (key key' : Text) : Prop :=
  ∃ word rest, key = KeyWord.key word rest ∧ key' = word.key (word.follow rename rest)

theorem KeyWord.follow_injective (rename : Equiv.Perm Text) (word : KeyWord) :
    Function.Injective (word.follow rename) := by
  cases word with
  | agent | approval => exact rename.injective
  | _ => exact fun _ _ same => same

theorem SameKey.eq_iff {first second first' second' : Text} (one : SameKey rename first first')
    (two : SameKey rename second second') : first = second ↔ first' = second' := by
  obtain ⟨word, rest, rfl, rfl⟩ := one
  obtain ⟨word', rest', rfl, rfl⟩ := two
  constructor
  · intro same
    obtain ⟨rfl, rfl⟩ := KeyWord.key_inj same
    rfl
  · intro same
    obtain ⟨rfl, rests⟩ := KeyWord.key_inj same
    rw [word.follow_injective rename rests]

/-- A declaration and what it becomes under other ids. -/
structure SameDeclaration (rename : Text → Text) (declaration other : Module.Declaration) :
    Prop where
  key : SameKey rename declaration.key other.key
  group : declaration.group = other.group
  lines : declaration.lines = other.lines

theorem SameDeclaration.eq_iff {first second first' second' : Module.Declaration}
    (one : SameDeclaration rename first first') (two : SameDeclaration rename second second') :
    first = second ↔ first' = second' := by
  rw [Module.Declaration.mk.injEq, Module.Declaration.mk.injEq, one.key.eq_iff two.key, one.group,
    one.lines, two.group, two.lines]

/-- A declaration whose key is not that of a node stays as it is. -/
theorem SameDeclaration.self {rename : Text → Text} {declaration : Module.Declaration}
    {word : KeyWord} {rest : Text} (key : declaration.key = word.key rest)
    (fixed : word.follow rename rest = rest) : SameDeclaration rename declaration declaration :=
  ⟨⟨word, rest, key, fixed.symm ▸ key⟩, rfl, rfl⟩

/-! ## Drafts and emissions -/

/-- A draft and what it becomes under other ids; notes do not matter. -/
structure Draft.Alike (rename : Text → Text) (draft other : Draft) : Prop where
  symbols : draft.symbols.Alike other.symbols
  imports : draft.module.imports = other.module.imports
  declarations : List.Forall₂ (SameDeclaration rename) draft.module.declarations
    other.module.declarations

/-- What is emitted for a node, and what is emitted for it under another id. -/
structure Emission.Alike (rename : Text → Text) (emission other : Emission) : Prop where
  statements : emission.statements = other.statements
  result : emission.result = other.result
  imports : emission.imports = other.imports
  declarations : List.Forall₂ (SameDeclaration rename) emission.declarations other.declarations
  conditions : emission.conditions = other.conditions
  gate : emission.gate = other.gate
  checkedText : emission.checkedText = other.checkedText

theorem Emission.Alike.of_self {rename : Text → Text} {emission : Emission}
    (same : ∀ declaration ∈ emission.declarations,
      SameDeclaration rename declaration declaration) : emission.Alike rename emission :=
  ⟨rfl, rfl, rfl, forall₂_same.2 same, rfl, rfl, rfl⟩

/-- Steps that lead from alike drafts to alike drafts and related results. -/
abbrev StepAlike (rename : Text → Text) {α : Type} (related : α → α → Prop) :
    Build α → Build α → Prop :=
  Alongside (Draft.Alike rename) related

abbrev EmitAlike (rename : Text → Text) : Build Emission → Build Emission → Prop :=
  StepAlike rename (Emission.Alike rename)

/-! ## Single steps -/

theorem liftError_knowing {α : Type} {result other : Except Error α} (agree : Agree result other) :
    StepAlike rename (fun value value' => value = value' ∧ result = .ok value)
      (liftError result) (liftError other) := by
  cases agree with
  | ok value => exact .pure ⟨rfl, rfl⟩
  | error external => exact .throw _

theorem liftError_alongside {α : Type} {result other : Except Error α}
    (agree : Agree result other) :
    StepAlike rename Eq (liftError result) (liftError other) :=
  (liftError_knowing agree).mono fun _ _ => And.left

theorem note_alongside (logger logger' : Text) (level level' : LogLevel) (message message' : Text) :
    StepAlike rename Eq (note logger level message) (note logger' level' message') := by
  intro draft draft' alike value last done
  cases done
  exact ⟨(), _, rfl, rfl, alike.symbols, alike.imports, alike.declarations⟩

theorem allocate_alongside (base : Text) :
    StepAlike rename Eq (allocate base) (allocate base) := by
  intro draft draft' alike name last done
  rw [allocate_run] at done ⊢
  split at done
  · rename_i handed
    cases done
    obtain ⟨later, handed', alike'⟩ := alike.symbols.allocate handed
    rw [handed']
    exact ⟨_, _, rfl, rfl, alike', alike.imports, alike.declarations⟩
  · cases done

theorem addImport_alongside (wanted : Module.Import) :
    StepAlike rename Eq (addImport wanted) (addImport wanted) := by
  intro draft draft' alike value last done
  cases done
  refine ⟨(), { draft' with module := draft'.module.addImport wanted }, rfl, rfl,
    alike.symbols, ?_, ?_⟩
  · show (draft.module.addImport wanted).imports = (draft'.module.addImport wanted).imports
    unfold Module.Builder.addImport
    rw [alike.imports]
    split
    · exact alike.imports
    · rfl
  · show List.Forall₂ _ (draft.module.addImport wanted).declarations
      (draft'.module.addImport wanted).declarations
    rw [declarations_addImport, declarations_addImport]
    exact alike.declarations

theorem find?_alike {known known' : List Module.Declaration}
    {declaration other : Module.Declaration}
    (same : SameDeclaration rename declaration other)
    (pairs : List.Forall₂ (SameDeclaration rename) known known') :
    Option.Rel (SameDeclaration rename) (known.find? (·.key = declaration.key))
      (known'.find? (·.key = other.key)) := by
  induction pairs with
  | nil => exact .none
  | cons pair _ ih =>
    rw [find?_cons, find?_cons]
    simp only [pair.key.eq_iff same.key]
    split
    · exact .some pair
    · exact ih

theorem declare_alongside {declaration other : Module.Declaration}
    (same : SameDeclaration rename declaration other) :
    StepAlike rename Eq (declare declaration) (declare other) := by
  intro draft draft' alike value last done
  have found := find?_alike same alike.declarations
  unfold declare Module.Builder.declare at done ⊢
  rw [get_bind_run] at done ⊢
  generalize draft.module.declarations.find? (·.key = declaration.key) = hit at done found
  generalize draft'.module.declarations.find? (·.key = other.key) = hit' at found
  cases found with
  | none =>
    cases done
    exact ⟨(), _, rfl, rfl, alike.symbols, alike.imports,
      rel_append alike.declarations (.cons same .nil)⟩
  | some pair =>
    rename_i known known'
    by_cases equal : known = declaration
    · simp only [equal, if_true] at done
      cases done
      simp only [(pair.eq_iff same).1 equal, if_true]
      exact ⟨(), draft', rfl, trivial, alike⟩
    · simp only [equal, if_false] at done
      cases done

theorem absorb_alongside {emission other : Emission} (same : emission.Alike rename other) :
    StepAlike rename Eq (absorb emission) (absorb other) := by
  unfold absorb
  rw [same.imports]
  exact (Alongside.forM (fun wanted _ equal => equal ▸ addImport_alongside wanted)
    (forall₂_same.2 fun _ _ => rfl)).then_ fun _ =>
      Alongside.forM (fun _ _ pair => declare_alongside pair) same.declarations

/-! ## Emitters -/

section Emitters

variable {context other : Context} (alike : context.Alike other) {path : Path} {id : Text}
include alike

theorem layout_alongside (literal : Literal) : StepAlike rename Eq
    (liftError (layout context literal)) (liftError (layout other literal)) :=
  liftError_alongside (layout_agree alike literal)

theorem expression_alongside (source : Text) : StepAlike rename Eq
    (liftError (expression context source path id))
    (liftError (expression other source path (rename id))) :=
  liftError_alongside (expression_agree alike path id (rename id) source)

theorem emitStart_alongside : EmitAlike rename
    (emitStart context) (emitStart other) := by
  have text : initialHistory context = initialHistory other := by
    unfold initialHistory inputText
    rw [alike.inputTextField]
  unfold emitStart
  rw [alike.state, text]
  exact (layout_alongside alike _).then_ fun _ => (layout_alongside alike _).then_ fun _ =>
    .pure (.of_self (by simp))

theorem emitFinish_alongside (config : FinishConfig) :
    EmitAlike rename (emitFinish context path id config)
      (emitFinish other path (rename id) config) := by
  unfold emitFinish
  split
  · exact .pure (.of_self (by simp))
  · have fields : Agree (config.output.mapM fun entry => do
        return (entry.1, Literal.code (← expression context entry.2 path id)))
        (config.output.mapM fun entry => do
          return (entry.1, Literal.code (← expression other entry.2 path (rename id)))) :=
      .mapM (fun entry => (expression_agree alike path id (rename id) entry.2).bind fun _ =>
        .pure _) config.output
    exact (liftError_alongside (schemaKeys_agree id (rename id) _)).then_ fun _ =>
      (liftError_alongside fields).then_ fun _ => (allocate_alongside _).then_ fun _ =>
        (layout_alongside alike _).then_ fun _ => .pure (.of_self (by simp))

theorem emitBranch_alongside (conditions : List Text) :
    EmitAlike rename (emitBranch context path id conditions)
      (emitBranch other path (rename id) conditions) :=
  (liftError_alongside (.mapM (expression_agree alike path id (rename id)) conditions)).then_
    fun _ => .pure (.of_self (by simp))

theorem emitLoop_alongside (condition : Text) :
    EmitAlike rename (emitLoop context path id condition)
      (emitLoop other path (rename id) condition) :=
  (expression_alongside alike _).then_ fun _ => .pure (.of_self (by simp))

theorem emitApproval_alongside (message : Text) :
    EmitAlike rename (emitApproval context id message)
      (emitApproval other (rename id) message) := by
  unfold emitApproval
  rw [unit_eq alike]
  refine (allocate_alongside _).then_ fun _ => (allocate_alongside _).then_ fun _ => .pure ?_
  exact ⟨rfl, rfl, rfl, .cons ⟨⟨.approval, id, rfl, rfl⟩, rfl, rfl⟩ .nil, rfl, rfl, rfl⟩

theorem emitTransform_alongside (source : Text) :
    EmitAlike rename (emitTransform context path id source)
      (emitTransform other path (rename id) source) := by
  unfold emitTransform
  dsimp only
  split
  · exact (Alongside.pure rfl).then_ fun _ => (allocate_alongside _).then_ fun _ =>
      .pure (.of_self (by simp))
  · exact (expression_alongside alike _).then_ fun _ => (allocate_alongside _).then_ fun _ =>
      .pure (.of_self (by simp))

theorem emitSetState_alongside (assignments : List Assignment) :
    EmitAlike rename
      (emitSetState context path id assignments)
      (emitSetState other path (rename id) assignments) :=
  (liftError_alongside (.mapM (assignmentLine?_agree alike path id (rename id)) assignments)).then_
    fun _ => .pure (.of_self (by simp))

theorem emitFileSearch_alongside (search : FileSearch) :
    EmitAlike rename (emitFileSearch context search)
      (emitFileSearch other search) := by
  unfold emitFileSearch
  rw [unit_eq alike, alike.settings]
  refine (allocate_alongside _).then_ fun _ => .pure (.of_self ?_)
  simpa using .self clientDeclaration_key rfl

theorem emitServer_alongside (config : ServerConfig) :
    EmitAlike rename (emitServer context config)
      (emitServer other config) := by
  have calls : ∀ connection call, StepAlike rename Eq
      (emitToolCall context connection call) (emitToolCall other connection call) := by
    intro connection call
    unfold emitToolCall
    rw [unit_eq alike]
    exact (allocate_alongside _).then_ fun _ => (layout_alongside alike _).then_ fun _ => .pure rfl
  unfold emitServer
  rw [unit_eq alike]
  exact (allocate_alongside _).then_ fun _ => (allocate_alongside _).then_ fun connection =>
    (liftError_alongside (transportArguments_agree alike config)).then_ fun _ =>
      (Alongside.mapM_same (calls connection) config.calls).then_ fun _ =>
        .pure (.of_self (by simp))

theorem emitFunctionTool_alongside (call : FunctionCall) :
    EmitAlike rename
      (emitFunctionTool context path id call) (emitFunctionTool other path (rename id) call) := by
  have same := alike.tools call.tool
  unfold emitFunctionTool
  dsimp only
  rw [same.parameters_eq, same.name, same.toolDeclaration_eq, same.toolImports_eq, unit_eq alike]
  refine (liftError_alongside (parameters_agree _)).then_ fun _ =>
    (liftError_alongside (callArguments_agree alike path id (rename id) _ _ _)).then_ fun _ =>
      (allocate_alongside _).then_ fun _ =>
        (liftError_knowing (toolDeclaration_agree _ _)).bind fun declaration _ made => ?_
  obtain ⟨rfl, made⟩ := made
  refine (liftError_alongside (toolImports_agree _)).then_ fun _ => .pure (.of_self ?_)
  simpa using .self (toolDeclaration_key made) rfl

omit alike in
theorem guardrailNames_alongside : StepAlike rename Eq guardrailNames guardrailNames :=
  (allocate_alongside _).then_ fun _ => (allocate_alongside _).then_ fun _ =>
    (allocate_alongside _).then_ fun _ => (allocate_alongside _).then_ fun _ =>
      (allocate_alongside _).then_ fun _ => (allocate_alongside _).then_ fun _ => .pure rfl

theorem guardedStage_alongside (names : GuardrailNames) : StepAlike rename Eq
    (guardedStage context names) (guardedStage other names) :=
  (allocate_alongside _).then_ fun _ => (allocate_alongside _).then_ fun _ =>
    (layout_alongside alike _).then_ fun _ => .pure rfl

theorem emitGuardrail_alongside (config : GuardrailConfig) :
    EmitAlike rename (emitGuardrail context path id config)
      (emitGuardrail other path (rename id) config) := by
  unfold emitGuardrail
  rw [unit_eq alike]
  refine guardrailNames_alongside.then_ fun names =>
    (liftError_alongside (guardrailSource_agree alike path id (rename id) config)).then_ fun _ =>
      (liftError_alongside (.mapM policyEntry_agree _)).then_ fun _ =>
        (layout_alongside alike _).then_ fun _ => ?_
  have fixed : ∀ lines, ∀ declaration ∈ [clientDeclaration,
      { key := "guardrails_bundle:" ++ names.bundle, group := .guardrailBundles, lines },
      helperDeclaration other.unit], SameDeclaration rename declaration declaration := by
    intro lines
    simp only [forall_mem_cons, not_mem_nil, false_imp_iff, implies_true, and_true]
    exact ⟨.self clientDeclaration_key rfl, @SameDeclaration.self _ _ .bundle names.bundle rfl rfl,
      .self (helperDeclaration_key _) rfl⟩
  dsimp only
  split
  · exact (guardedStage_alongside alike names).then_ fun _ => .pure (.of_self (fixed _))
  · exact (Alongside.pure rfl).then_ fun _ => .pure (.of_self (fixed _))

theorem toolParts_alongside (tool : AgentTool) :
    StepAlike rename (fun parts parts' => parts = parts' ∧
      ∀ declaration ∈ parts.declarations, SameDeclaration rename declaration declaration)
      (toolParts context tool) (toolParts other tool) := by
  cases tool with
  | function tool =>
    have same := alike.tools tool
    unfold toolParts
    dsimp only
    rw [same.name, same.toolDeclaration_eq, same.toolImports_eq, unit_eq alike]
    refine (liftError_knowing (toolDeclaration_agree _ _)).bind fun declaration _ made => ?_
    obtain ⟨rfl, made⟩ := made
    refine (liftError_alongside (toolImports_agree _)).then_ fun _ => .pure ⟨rfl, ?_⟩
    simpa using .self (toolDeclaration_key made) rfl
  | webSearch tool =>
    refine (allocate_alongside _).then_ fun symbol => ?_
    refine (liftError_knowing (webSearchDeclaration_agree alike symbol tool)).bind
      fun declaration _ made => ?_
    obtain ⟨rfl, made⟩ := made
    refine .pure ⟨rfl, ?_⟩
    simpa using .self (webSearchDeclaration_key made) rfl

theorem toolParts_mapM_alongside (tools : List AgentTool) :
    StepAlike rename (fun parts parts' => parts = parts' ∧
      ∀ declaration ∈ parts.flatMap ToolParts.declarations,
        SameDeclaration rename declaration declaration)
      (tools.mapM (toolParts context)) (tools.mapM (toolParts other)) := by
  induction tools with
  | nil => exact .pure ⟨rfl, by simp⟩
  | cons tool rest ih =>
    rw [mapM_cons, mapM_cons]
    refine (toolParts_alongside alike tool).bind fun head _ fixed => ih.bind fun tail _ others => ?_
    obtain ⟨rfl, here⟩ := fixed
    obtain ⟨rfl, there⟩ := others
    refine .pure ⟨rfl, fun declaration listed => ?_⟩
    rw [flatMap_cons, mem_append] at listed
    exact listed.elim (here declaration) (there declaration)

omit alike in
theorem answerClass_alongside (config : AgentConfig) : StepAlike rename Eq
    (answerClass id config) (answerClass (rename id) config) := by
  unfold answerClass
  split
  · exact (liftError_alongside (checkSchema_agree _ _ _)).then_ fun _ =>
      (allocate_alongside _).then_ fun _ =>
        (liftError_alongside (Schema.recordClass_agree _ _ _ _)).then_ fun _ => .pure rfl
  · exact .pure rfl

theorem emitAgent_alongside (config : AgentConfig) :
    EmitAlike rename (emitAgent context id config)
      (emitAgent other (rename id) config) := by
  unfold emitAgent
  rw [unit_eq alike, reasoningCall_eq alike]
  refine (allocate_alongside _).then_ fun agent => ?_
  refine (toolParts_mapM_alongside alike config.tools).bind fun parts _ fixed => ?_
  obtain ⟨rfl, fixed⟩ := fixed
  refine (answerClass_alongside config).then_ fun _ =>
    (liftError_alongside (agentCall_agree alike _ _ _)).then_ fun _ =>
      (allocate_alongside _).then_ fun _ => (allocate_alongside _).then_ fun _ =>
        (liftError_alongside (runLines_agree alike _ _ _ _ _)).then_ fun _ => .pure ?_
  refine ⟨rfl, rfl, rfl, ?_, rfl, rfl, rfl⟩
  rw [foldl_append_parts, nil_append]
  refine rel_append (forall₂_same.2 fixed) ?_
  exact .cons ⟨⟨.agent, id, rfl, rfl⟩, rfl, rfl⟩ .nil

/-- **A node emits the same under another id.** -/
theorem emission_alongside {node renamed : Node} (same : renamed.id = rename node.id)
    (config : renamed.config = node.config) :
    EmitAlike rename (emission context node path)
      (emission other renamed path) := by
  unfold emission
  rw [config, same]
  cases node.config with
  | start => exact emitStart_alongside alike
  | finish config => exact emitFinish_alongside alike config
  | agent config => exact emitAgent_alongside alike config
  | functionTool call => exact emitFunctionTool_alongside alike call
  | transform source => exact emitTransform_alongside alike source
  | setState assignments => exact emitSetState_alongside alike assignments
  | branch conditions => exact emitBranch_alongside alike conditions
  | loop condition => exact emitLoop_alongside alike condition
  | approval message => exact emitApproval_alongside alike message
  | fileSearch search => exact emitFileSearch_alongside alike search
  | mcpTool config => exact emitServer_alongside alike config
  | guardrail config => exact emitGuardrail_alongside alike config

theorem notingEmitter_alongside {node renamed : Node} (same : renamed.id = rename node.id)
    (config : renamed.config = node.config) {path' : Path} (names : path.names = path'.names) :
    EmitAlike rename (notingEmitter context node path)
      (notingEmitter other renamed path') := by
  unfold notingEmitter emitNode
  rw [← emission_eq_of_names names]
  exact (note_alongside _ _ _ _ _ _).then_ fun _ =>
    (emission_alongside alike same config).bind fun _ _ emitted =>
      (absorb_alongside emitted).then_ fun _ => .pure emitted

end Emitters

end AgentFlow.Emit
