import AgentFlow.Proofs.Emit.Steady
import AgentFlow.Proofs.Layout.Laid
import AgentFlow.Proofs.Layout.Quiet
import AgentFlow.Proofs.Workflow.ToolNames

/-!
# Statements that bind no name that is taken for granted

The statements of a node assign names that were handed out, and each of these names has a beginning
that no watched word has.  What they assign is laid out quietly, and compiled expressions stay on
one line.  So no line of the body binds a function or type that generated code takes for granted.
-/

namespace AgentFlow

open List Text
open Literal (laysQuiet_dict laysQuiet_list laysQuiet_scalar laysSerene_code)
open AgentFlow.Except (bind_eq_ok)
open Argument (isQuiet_named)

/-! ## Names -/

namespace Text

/-- The words that generated code does not bind. -/
def taboo : List Text := (Target.keywords : List Text) ++ watched

/-- A name that generated code can bind: plain, and neither reserved nor watched. -/
structure IsSymbol (name : Text) : Prop where
  starts : ∃ c rest, name = c :: rest ∧ c.startsPlainName = true
  plain : ∀ c ∈ name, c.continuesPlainName = true
  free : name ∉ taboo

/-- A name that goes on with plain code points after a stem. -/
def Grows (stem name : Text) : Prop :=
  ∃ rest : Text, name = stem ++ rest ∧ ∀ c ∈ rest, c.continuesPlainName = true

variable {stem name rest : Text} {c : CodePoint}

theorem Grows.append (grows : stem.Grows name) (plain : ∀ c ∈ rest, c.continuesPlainName = true) :
    stem.Grows (name ++ rest) := by
  obtain ⟨more, rfl, others⟩ := grows
  exact ⟨more ++ rest, append_assoc .., forall_mem_append.2 ⟨others, plain⟩⟩

theorem grows_self (stem : Text) : stem.Grows stem := ⟨[], (append_nil stem).symm, nofun⟩

theorem oneLine_append {first second : Text} :
    OneLine (first ++ second) ↔ first.OneLine ∧ second.OneLine :=
  ⟨fun one => ⟨fun member => one (mem_append_left _ member),
    fun member => one (mem_append_right _ member)⟩, fun both => both.1.append both.2⟩

/-- What grows from a stem that no watched or reserved word has is a symbol. -/
theorem Grows.isSymbol (grows : stem.Grows name) (stemmed : isStem taboo stem = true) :
    name.IsSymbol := by
  obtain ⟨rest, rfl, plain⟩ := grows
  obtain ⟨⟨c, more, rfl, starts⟩, continues, -⟩ := isStem_iff.1 stemmed
  exact ⟨⟨c, more ++ rest, rfl, starts⟩, forall_mem_append.2 ⟨continues, plain⟩,
    notMem_of_isStem stemmed rest⟩

theorem isSymbol_of_isStem (stemmed : isStem taboo name = true) : name.IsSymbol :=
  (grows_self name).isSymbol stemmed

namespace IsSymbol

variable (symbol : name.IsSymbol)
include symbol

theorem word : ∀ c ∈ name, c.isWord = true := fun c member => by
  simp [CodePoint.isWord, symbol.plain c member]

theorem oneLine : name.OneLine := fun member =>
  absurd (symbol.plain _ member) (by decide)

theorem plainName : Target.PlainName name := by
  obtain ⟨c, rest, rfl, starts⟩ := symbol.starts
  refine ⟨?_, ?_, Target.isKeyword_eq_false fun listed => symbol.free (mem_append_left _ listed)⟩
  · rw [isIdentifier, Bool.and_eq_true, all_eq_true]
    exact ⟨CodePoint.startsIdentifier_of_plain starts, fun d member =>
      CodePoint.continuesIdentifier_of_plain (symbol.plain d (mem_cons_of_mem _ member))⟩
  · refine all_eq_true.2 fun d member => decide_eq_true ?_
    have plain := symbol.plain d member
    simp only [CodePoint.continuesPlainName, CodePoint.startsPlainName, CodePoint.isAsciiDigit,
      Bool.or_eq_true, Bool.and_eq_true, decide_eq_true_eq] at plain
    omega

/-- A symbol at the start of a line, before anything but a word. -/
theorem opens (stop : c.isWord = false) (rest : Text) :
    (name ++ c :: rest).opens = true := by
  obtain ⟨d, more, rfl, -⟩ := symbol.starts
  have tight : d.isGap = false := isGap_of_isWord (symbol.word d mem_cons_self)
  have first : leading (d :: more ++ c :: rest) = d :: more := by
    rw [leading_append symbol.word, leading_of_stop stop, append_nil]
  unfold Text.opens
  rw [cons_append, dropWhile_cons_of_neg (by simp [tight]), ← cons_append]
  dsimp only
  rw [first]
  have free : d :: more ∉ watched := fun listed => symbol.free (mem_append_right _ listed)
  simp [free, stop]

/-- A line that starts with a symbol, and goes on after a space. -/
theorem line (space : rest.head? = some (.scalar ' '))
    (serene : rest.Serene) : Quiet (name ++ rest) := by
  cases rest with
  | nil => cases space
  | cons c more =>
    cases space
    have tame := tame_of_opens (symbol.opens (c := ' ') (by decide) more) []
    rw [append_nil] at tame
    exact ⟨tame, (serene_append_of_oneLine symbol.oneLine).2 serene⟩

theorem quiet : name.Quiet := by
  have spaced : Quiet (name ++ Text.ofString " ") := symbol.line rfl (by decide)
  exact .of_oneLine (tame_of_append (by decide) spaced.tame) symbol.oneLine

end IsSymbol

end Text

/-! ## Statements -/

/-- A line that binds no name that is taken for granted: a quiet one, or the head of a handler. -/
def Text.Spares (line : Text) : Prop :=
  line.Quiet ∨ ∃ name : Text, name.IsSymbol ∧ line = "except Exception as " ++ name ++ ":"

/-- All lines of a statement spare the names that are taken for granted, at any depth. -/
def Statement.IsQuiet (statement : Statement) : Prop :=
  ∀ depth, ∀ line ∈ statement.lines depth, line.text.Spares

/-- All statements of a block spare the names that are taken for granted. -/
def Block.IsQuiet (body : Block) : Prop := ∀ statement ∈ body, statement.IsQuiet

variable {depth : Nat} {condition : Text} {body : Block}

theorem Block.IsQuiet.lines (quiet : Block.IsQuiet body) :
    ∀ line ∈ Block.lines depth body, line.text.Spares := by
  induction body with
  | nil => nofun
  | cons statement rest ih =>
    obtain ⟨first, others⟩ := forall_mem_cons.1 quiet
    rw [Block.lines]
    exact forall_mem_append.2 ⟨first depth, ih others⟩

theorem Block.IsQuiet.filled (quiet : Block.IsQuiet body) :
    ∀ line ∈ Block.filled body depth (Block.lines depth body), line.text.Spares := by
  unfold Block.filled
  split
  · exact quiet.lines
  · exact forall_mem_append.2
      ⟨quiet.lines, forall_mem_singleton.2 (show Spares "pass" from .inl (by decide))⟩

theorem spares_else : Spares "else:" := .inl (by decide)

/-- The head of a compound statement: a reserved word, and code on one line. -/
theorem spares_head {keyword : Text} (opening : opens keyword = true) (one : keyword.OneLine)
    (code : condition.OneLine) : Spares (keyword ++ condition ++ ":") := by
  rw [append_assoc]
  exact .inl (.of_opens opening one (serene_of_oneLine (code.append (by decide))))

namespace Statement

theorem IsQuiet.raw {lines : List Text} (each : ∀ line ∈ lines, line.Quiet) :
    (Statement.raw lines).IsQuiet := by
  intro depth line listed
  obtain ⟨text, among, rfl⟩ := mem_map.1 listed
  exact .inl (each text among)

theorem IsQuiet.ret {value : Text} (one : value.OneLine) : (Statement.ret value).IsQuiet := by
  intro depth
  refine forall_mem_singleton.2 (.inl ?_)
  exact .of_opens (by decide) (by decide) (serene_of_oneLine one)

variable {arms : List (Text × Block)}

theorem spares_arms (each : ∀ arm ∈ arms, arm.1.OneLine ∧ Block.IsQuiet arm.2) :
    ∀ {keyword : Text}, opens keyword = true → keyword.OneLine →
      ∀ line ∈ Arms.lines depth keyword arms, line.text.Spares := by
  induction arms with
  | nil => nofun
  | cons arm rest ih =>
    intro keyword opening one
    obtain ⟨condition, body⟩ := arm
    obtain ⟨⟨code, quiet⟩, others⟩ := forall_mem_cons.1 each
    rw [Arms.lines]
    refine forall_mem_append.2 ⟨?_, ih others (by decide) (by decide)⟩
    exact forall_mem_cons.2 ⟨spares_head opening one code, quiet.filled⟩

theorem IsQuiet.branch {orelse : Option Block}
    (each : ∀ arm ∈ arms, arm.1.OneLine ∧ Block.IsQuiet arm.2)
    (other : ∀ body, orelse = some body → Block.IsQuiet body) :
    (Statement.branch arms orelse).IsQuiet := by
  intro depth
  cases orelse with
  | none => exact spares_arms each (by decide) (by decide)
  | some body =>
    rw [lines]
    refine forall_mem_append.2 ⟨spares_arms each (by decide) (by decide), ?_⟩
    exact forall_mem_cons.2 ⟨spares_else, (other body rfl).filled⟩

theorem IsQuiet.loop (code : condition.OneLine) (quiet : Block.IsQuiet body) :
    (Statement.loop condition body).IsQuiet := fun _ =>
  forall_mem_cons.2 ⟨spares_head (by decide) (by decide) code, quiet.filled⟩

theorem IsQuiet.guard {continuation fallback : Block} {continueWhen : Bool}
    (code : condition.OneLine) (inside : Block.IsQuiet continuation)
    (outside : Block.IsQuiet fallback) :
    (Statement.guard condition continuation fallback continueWhen).IsQuiet := by
  intro depth
  have head : Spares ("if " ++ condition ++ ":") := spares_head (by decide) (by decide) code
  cases continueWhen with
  | true =>
    rw [lines]
    exact forall_mem_append.2 ⟨forall_mem_cons.2 ⟨head, inside.filled⟩,
      forall_mem_cons.2 ⟨spares_else, outside.filled⟩⟩
  | false =>
    rw [lines]
    exact forall_mem_append.2 ⟨forall_mem_cons.2 ⟨head, outside.filled⟩,
      forall_mem_cons.2 ⟨spares_else, inside.filled⟩⟩

theorem IsQuiet.attempt {errorName : Text} {handler : Block} (symbol : errorName.IsSymbol)
    (tried : Block.IsQuiet body) (handled : Block.IsQuiet handler) :
    (Statement.attempt body errorName handler).IsQuiet := by
  intro depth
  have head : Spares "try:" := .inl (by decide)
  rw [lines]
  refine forall_mem_append.2 ⟨forall_mem_cons.2 ⟨head, tried.filled⟩, ?_⟩
  exact forall_mem_cons.2 ⟨.inr ⟨errorName, symbol, rfl⟩, handled.filled⟩

end Statement

/-! ## What nodes emit -/

namespace Emit

open Workflow Stoppable

/-- The names that a path hands on can be bound. -/
structure Path.Named (path : Path) : Prop where
  result : ∀ name, path.lastResult = some name → name.IsSymbol
  checked : ∀ name, path.guardrailText = some name → name.IsSymbol

/-- What a node emits spares the names that are taken for granted, and hands on names that can be
bound. -/
structure Emission.IsQuiet (emission : Emission) : Prop where
  statements : Block.IsQuiet emission.statements
  result : ∀ name, emission.result = some name → name.IsSymbol
  checkedText : ∀ name, emission.checkedText = some name → name.IsSymbol
  conditions : ∀ condition ∈ emission.conditions, condition.OneLine
  gate : ∀ gate, emission.gate = some gate →
    gate.condition.OneLine ∧ ∀ name, gate.fallback = some name → name.IsSymbol

theorem forall_none {α : Type} {property : α → Prop} :
    ∀ value, none = some value → property value := nofun

theorem forall_some {α : Type} {property : α → Prop} {given : α} (holds : property given) :
    ∀ value, some given = some value → property value := fun _ same => Option.some.inj same ▸ holds

variable {context : Context} {path : Path} {id base source target : Text} {names : GuardrailNames}

theorem isSymbol_orWorkflow {name : Option Text}
    (named : ∀ given, name = some given → given.IsSymbol) :
    (orWorkflow name).IsSymbol := by
  unfold orWorkflow
  split
  · exact named _ rfl
  · exact isSymbol_of_isStem (by decide)

theorem Path.Named.current (named : path.Named) : path.current.IsSymbol :=
  isSymbol_orWorkflow named.result

theorem allocate_grows {stem : Text} (grows : stem.Grows base) :
    Returns (allocate base) stem.Grows := by
  intro draft last name done
  obtain ⟨-, digits, rfl, areDigits⟩ := allocate_returns base done
  exact grows.append fun c member => by simp [CodePoint.continuesPlainName, areDigits c member]

theorem allocate_isSymbol (stemmed : isStem taboo base = true) :
    Returns (allocate base) IsSymbol := fun _ _ _ done =>
  (allocate_grows (grows_self base) done).isSymbol stemmed

theorem serene_layout {literal : Literal} (laid : literal.LaysSerene context.unit)
    (done : layout context literal = .ok source) : source.Serene := by
  unfold layout at done
  split at done
  · next found =>
      cases done
      exact laid _ found
  · cases done

theorem quiet_assignmentLines (opening : opens (target ++ " = ") = true) (one : target.OneLine)
    (serene : source.Serene) : ∀ line ∈ assignmentLines target source, line.Quiet := by
  intro line listed
  have quiet : Quiet (target ++ " = " ++ source) :=
    .of_opens opening (one.append (by decide)) serene
  exact .of_oneLine (quiet.lines line listed) (oneLine_of_mem_lines _ line listed)

theorem quiet_assigned (symbol : target.IsSymbol) (serene : source.Serene) :
    ∀ line ∈ assignmentLines target source, line.Quiet :=
  quiet_assignmentLines (symbol.opens (by decide) _) symbol.oneLine serene

theorem emitApproval_quiet (message : Text) :
    Returns (emitApproval context id message) Emission.IsQuiet := by
  refine .bind _ (allocate_isSymbol (by decide)) fun stub called => ?_
  refine .bind _ (allocate_isSymbol (by decide)) fun asked symbol => .pure
    ⟨forall_mem_singleton.2 (.raw ?_), forall_none, forall_none, forall_mem_nil _,
      forall_some ⟨?_, forall_none⟩⟩
  · simp only [forall_mem_cons]
    refine ⟨?_, by decide, nofun⟩
    exact .of_opens (symbol.opens (by decide) _) (symbol.oneLine.append (by decide))
      (quiet_doubleQuoted message).serene
  · simp +decide only [oneLine_append, called.oneLine, symbol.oneLine, and_self]

theorem serene_toolName {name rest : Text} (plain : name.isPlainName = true)
    (stops : rest.Stops) (serene : rest.Serene) : Serene (name ++ rest) := by
  obtain ⟨word, shape⟩ := plain_dropLineBreak plain
  have one : name.dropLineBreak.OneLine := fun member => absurd (word _ member) (by decide)
  rcases shape with same | same
  · rw [same, serene_append_of_oneLine one]
    exact serene
  · rw [same, append_assoc, serene_append_of_oneLine one]
    exact serene_break.2 ⟨tame_of_stops stops, serene⟩

theorem oneLine_join {separator : Text} (one : separator.OneLine) {pieces : List Text}
    (each : ∀ piece ∈ pieces, piece.OneLine) : (join separator pieces).OneLine := by
  induction pieces with
  | nil => exact nofun
  | cons piece rest ih =>
    obtain ⟨first, others⟩ := forall_mem_cons.1 each
    cases rest with
    | nil => exact first
    | cons next more => exact (first.append one).append (ih others)

section Named

variable (named : path.Named)
include named

theorem expression_oneLine {code : Text}
    (done : expression context source path id = .ok code) : code.OneLine := by
  obtain ⟨scope, made, done⟩ := bind_eq_ok.1 done
  obtain ⟨fields, _, same⟩ := bind_eq_ok.1 made
  cases same
  unfold compiled at done
  split at done
  · next found =>
      cases done
      obtain ⟨_, tree, rendered, _, written, checked, rfl⟩ := Expr.compile_eq_ok_iff.1 found
      have plain := named.current.plainName
      have strings := (Expr.checkText_render_iff plain written).1 checked
      exact (Expr.composed_of_render plain tree rendered strings written).writes.oneLine
  · cases done

theorem emitBranch_quiet (conditions : List Text) :
    Returns (emitBranch context path id conditions) Emission.IsQuiet := by
  refine .bind _ (liftError_returns fun _ done => done) fun compiled done => .pure
    ⟨forall_mem_nil _, forall_none, forall_none, fun condition listed => ?_, forall_none⟩
  obtain ⟨source, _, written⟩ := exists_of_mem_right (forall₂_of_mapM done) listed
  exact expression_oneLine named written

theorem emitLoop_quiet (condition : Text) :
    Returns (emitLoop context path id condition) Emission.IsQuiet :=
  .bind _ (liftError_returns fun _ done => expression_oneLine named done) fun _ one => .pure
    ⟨forall_mem_nil _, forall_none, forall_none, forall_mem_singleton.2 one, forall_none⟩

theorem emitTransform_quiet (source : Text) :
    Returns (emitTransform context path id source) Emission.IsQuiet := by
  have assigned {value : Text} (one : value.OneLine) :
      Returns (do
        let result ← allocate "transform_result"
        return { statements := [.raw [result ++ " = " ++ value]], result := some result })
        Emission.IsQuiet := by
    refine .bind _ (allocate_isSymbol (by decide)) fun result symbol => .pure
      ⟨forall_mem_singleton.2 (.raw (forall_mem_singleton.2 ?_)),
        forall_some symbol, forall_none, forall_mem_nil _, forall_none⟩
    exact .of_opens (symbol.opens (by decide) _) (symbol.oneLine.append (by decide))
      (serene_of_oneLine one)
  unfold emitTransform
  dsimp only
  split
  · exact .bind _ (.pure (show OneLine "\x7b\x7d" by decide)) fun _ one => assigned one
  · exact .bind _ (liftError_returns fun _ done => expression_oneLine named done)
      fun _ one => assigned one

theorem quiet_assignmentLine {assignment : Assignment} {line : Text}
    (done : assignmentLine? context path id assignment = .ok (some line)) : line.Quiet := by
  unfold assignmentLine? at done
  split at done
  · cases done
  · split at done
    · cases done
    · obtain ⟨value, compiled, same⟩ := bind_eq_ok.1 done
      cases same
      have one := expression_oneLine named compiled
      rw [append_assoc, append_assoc]
      refine .of_opens (by decide) (by decide) (serene_of_oneLine ?_)
      simp +decide only [oneLine_append, oneLine_doubleQuoted, one, and_self]

theorem emitSetState_quiet (assignments : List Assignment) :
    Returns (emitSetState context path id assignments) Emission.IsQuiet := by
  refine .bind _ (liftError_returns fun _ done => done) fun lines done => .pure
    ⟨?_, forall_none, forall_none, forall_mem_nil _, forall_none⟩
  dsimp only
  split
  · exact forall_mem_nil _
  · refine forall_mem_singleton.2 (.raw fun line listed => ?_)
    obtain ⟨_, among, rfl⟩ := mem_filterMap.1 listed
    obtain ⟨assignment, _, written⟩ := exists_of_mem_right (forall₂_of_mapM done) among
    exact quiet_assignmentLine named written

theorem callArguments_oneLine {names : List Text} {tool : Text}
    (known : ∀ name ∈ names, name.OneLine) :
    ∀ {arguments : List (Text × Text)} {codes : List Text},
      callArguments context path id tool names arguments = .ok codes →
        ∀ code ∈ codes, code.OneLine
  | [], codes, done => by
    cases done
    nofun
  | (name, source) :: rest, codes, done => by
    rw [callArguments] at done
    split at done
    · next listed =>
        obtain ⟨code, compiled, done⟩ := bind_eq_ok.1 done
        obtain ⟨others, more, same⟩ := bind_eq_ok.1 done
        cases same
        have one := expression_oneLine named compiled
        refine forall_mem_cons.2 ⟨?_, callArguments_oneLine known more⟩
        exact ((known name listed).append (by decide)).append one
    · cases done

theorem emitFunctionTool_quiet {call : FunctionCall}
    (plain : call.tool.name.isPlainName = true) :
    Returns (emitFunctionTool context path id call) Emission.IsQuiet := by
  refine .bind _ (liftError_returns fun _ done => done) fun found listed => ?_
  refine .bind _ (liftError_returns fun _ done => done) fun codes done => ?_
  refine .bind _ (allocate_isSymbol (by decide)) fun result symbol =>
    .then_ fun _ => .then_ fun _ =>
    .pure ⟨forall_mem_singleton.2 (.raw (forall_mem_singleton.2 ?_)),
      forall_some symbol, forall_none, forall_mem_nil _, forall_none⟩
  have known : ∀ name ∈ found.map Parameter.name, name.OneLine := by
    intro name among
    obtain ⟨parameter, inside, rfl⟩ := mem_map.1 among
    exact oneLine_of_isIdentifier (parameters_fit listed parameter inside).identifier
  have one := oneLine_join (show OneLine ", " by decide) (callArguments_oneLine named known done)
  rw [← toolNamed_name context call.tool] at plain
  simp only [append_assoc]
  refine symbol.line rfl ((serene_append_of_oneLine (by decide)).2 ?_)
  refine serene_toolName plain (fun c first => ?_) (serene_of_oneLine ?_)
  · cases first
    decide
  · simp +decide only [oneLine_append, one, and_self]

theorem guardrailSource_oneLine {config : GuardrailConfig}
    (done : guardrailSource context path id config = .ok source) : source.OneLine := by
  have given : (path.guardrailText.getD (inputText context)).OneLine := by
    cases checked : path.guardrailText with
    | none =>
      show (inputText context).OneLine
      simp +decide only [inputText, oneLine_append, oneLine_doubleQuoted, and_self]
    | some name => exact (named.checked name checked).oneLine
  unfold guardrailSource at done
  split at done
  · split at done
    · cases done
      exact given
    · exact expression_oneLine named done
  · cases done
    exact given

end Named

/-! ### Guardrails -/

def GuardrailNames.all (names : GuardrailNames) : List Text :=
  [names.bundle, names.input, names.result, names.tripwire, names.checked, names.output]

theorem guardrailNames_isSymbol :
    Returns guardrailNames fun names => ∀ name ∈ names.all, name.IsSymbol := by
  refine .bind _ (allocate_isSymbol (by decide)) fun _ bundle => ?_
  refine .bind _ (allocate_isSymbol (by decide)) fun _ input => ?_
  refine .bind _ (allocate_isSymbol (by decide)) fun _ result => ?_
  refine .bind _ (allocate_isSymbol (by decide)) fun _ tripwire => ?_
  refine .bind _ (allocate_isSymbol (by decide)) fun _ checked => ?_
  refine .bind _ (allocate_isSymbol (by decide)) fun _ output => .pure ?_
  simp only [GuardrailNames.all, forall_mem_cons]
  exact ⟨bundle, input, result, tripwire, checked, output, nofun⟩

theorem guardrailStage_quiet (symbols : ∀ name ∈ names.all, name.IsSymbol) :
    (guardrailStage names).IsQuiet := by
  simp only [GuardrailNames.all, forall_mem_cons] at symbols
  obtain ⟨bundle, input, result, tripwire, checked, output, -⟩ := symbols
  refine .raw ?_
  simp only [forall_mem_cons, append_assoc]
  refine ⟨result.line rfl (serene_of_oneLine ?_), tripwire.line rfl (serene_of_oneLine ?_),
    checked.line rfl (serene_of_oneLine ?_), output.line rfl (serene_of_oneLine ?_), nofun⟩
  all_goals
    simp +decide only [oneLine_append, bundle.oneLine, input.oneLine, result.oneLine,
      tripwire.oneLine, checked.oneLine, and_self]

/-! ### Code that is laid out -/

variable (isUnit : context.unit.IsUnit)
include isUnit

theorem emitStart_quiet :
    Returns (emitStart context) Emission.IsQuiet := by
  refine .bind _ (liftError_returns fun _ => serene_layout (laysQuiet_dict isUnit ?_).serene)
    fun initial first => .bind _ (liftError_returns fun _ =>
      serene_layout (laysQuiet_list isUnit ?_).serene) fun conversation second =>
        .pure ⟨?_, forall_none, forall_none, forall_mem_nil _, forall_none⟩
  · intro entry listed
    obtain ⟨⟨name, declared⟩, _, rfl⟩ := mem_map.1 listed
    show (initialValue declared).LaysSerene context.unit
    unfold initialValue
    split
    · exact (laysQuiet_list isUnit (forall_mem_nil _)).serene
    · exact (Literal.laysQuiet_ofJson isUnit _).serene
  · have text : (inputText context).OneLine := by
      simp +decide only [inputText, oneLine_append, oneLine_doubleQuoted, and_self]
    refine forall_mem_singleton.2 (laysQuiet_dict isUnit ?_)
    simp only [forall_mem_cons]
    refine ⟨(laysQuiet_scalar _).serene, (laysQuiet_list isUnit (forall_mem_singleton.2
      (laysQuiet_dict isUnit ?_))).serene, forall_mem_nil _⟩
    simp only [forall_mem_cons]
    exact ⟨(laysQuiet_scalar _).serene, laysSerene_code (serene_of_oneLine text), forall_mem_nil _⟩
  · simp only [Block.IsQuiet, forall_mem_cons]
    refine ⟨.raw ?_, .raw ?_, .raw ?_, forall_mem_nil _⟩
    · exact quiet_assigned (isSymbol_of_isStem (by decide)) first
    · decide
    · exact quiet_assignmentLines (by decide) (by decide) second

theorem emitFinish_quiet (named : path.Named)
    (config : FinishConfig) : Returns (emitFinish context path id config) Emission.IsQuiet := by
  unfold emitFinish
  split
  · exact .pure ⟨forall_mem_singleton.2 (.ret named.current.oneLine), forall_none,
      forall_none, forall_mem_nil _, forall_none⟩
  · refine .then_ fun keys =>
      .bind _ (liftError_returns fun _ done => done) fun values computed => ?_
    refine .bind _ (allocate_isSymbol (by decide)) fun result symbol => ?_
    refine .bind _ (liftError_returns fun _ => serene_layout
      (laysQuiet_dict isUnit ?_).serene) fun source serene => .pure
        ⟨?_, forall_some symbol, forall_none, forall_mem_nil _, forall_none⟩
    · refine forall_record (fun value listed => ?_) _ fun entry listed => ?_
      · obtain ⟨entry, _, done⟩ := exists_of_mem_right (forall₂_of_mapM computed) listed
        obtain ⟨code, compiled, same⟩ := bind_eq_ok.1 done
        cases same
        exact laysSerene_code (serene_of_oneLine (expression_oneLine named compiled))
      · obtain ⟨key, _, rfl⟩ := mem_map.1 listed
        exact (laysQuiet_scalar _).serene
    · exact forall_mem_cons.2 ⟨.raw (quiet_assigned symbol serene),
        forall_mem_singleton.2 (.ret symbol.oneLine)⟩

theorem emitFileSearch_quiet (search : FileSearch) :
    Returns (emitFileSearch context search) Emission.IsQuiet := by
  refine .bind _ (allocate_isSymbol (by decide)) fun result symbol => .pure
    ⟨forall_mem_singleton.2 (.raw ?_), forall_some symbol, forall_none,
      forall_mem_nil _, forall_none⟩
  simp only [forall_mem_cons, append_assoc]
  refine ⟨symbol.line rfl (by decide), .indented (by decide) isUnit,
    .indented (.indented (by decide) isUnit) isUnit,
    .indented (.indented (by decide) isUnit) isUnit,
    .indented (.indented (by decide) isUnit) isUnit, .indented ?_ isUnit, by decide, nofun⟩
  refine .of_opens (by decide) (by decide) (serene_of_oneLine ?_)
  simp +decide only [oneLine_append, oneLine_doubleQuoted, oneLine_ofInt, and_self]

theorem transportArguments_quiet {config : ServerConfig}
    {arguments : List Argument} (done : transportArguments context config = .ok arguments) :
    ∀ argument ∈ arguments, argument.IsQuiet := by
  unfold transportArguments at done
  split at done
  · obtain ⟨source, laid, same⟩ := bind_eq_ok.1 done
    cases same
    simp only [forall_mem_cons]
    refine ⟨isQuiet_named (by decide) (quiet_doubleQuoted _).serene,
      isQuiet_named (by decide) (serene_layout
        (laysQuiet_list isUnit fun item listed => ?_).serene laid), forall_mem_nil _⟩
    obtain ⟨value, _, rfl⟩ := mem_map.1 listed
    exact laysQuiet_scalar _
  · have url : (Argument.named "url" config.url.doubleQuoted).IsQuiet :=
      isQuiet_named (by decide) (quiet_doubleQuoted _).serene
    dsimp only at done
    split at done
    · cases done
      exact forall_mem_singleton.2 url
    · obtain ⟨source, laid, same⟩ := bind_eq_ok.1 done
      cases same
      simp only [forall_mem_cons]
      refine ⟨url, isQuiet_named (by decide) (serene_layout
        (laysQuiet_dict isUnit fun entry listed => ?_).serene laid), forall_mem_nil _⟩
      obtain ⟨header, _, rfl⟩ := mem_map.1 listed
      exact (laysQuiet_scalar _).serene

theorem emitToolCall_quiet {connection : Text}
    (symbol : connection.IsSymbol) (call : ToolCall) :
    Returns (emitToolCall context connection call) fun lines => ∀ line ∈ lines, line.Quiet := by
  refine .bind _ (allocate_isSymbol (by decide)) fun result assigned => ?_
  refine .bind _ (liftError_returns fun _ => serene_layout
    (Literal.laysQuiet_ofJson isUnit (.obj call.arguments)).serene) fun source serene => .pure ?_
  refine forall_mem_cons.2 ⟨by decide, forall_mem_cons.2 ⟨by decide,
    quiet_assigned assigned (serene_layoutCall isUnit ?_ ?_)⟩⟩
  · simp +decide only [oneLine_append, symbol.oneLine, and_self]
  · simp only [forall_mem_cons]
    exact ⟨isQuiet_named (by decide) (quiet_doubleQuoted _).serene,
      isQuiet_named (by decide) serene, forall_mem_nil _⟩

theorem emitServer_quiet (config : ServerConfig) :
    Returns (emitServer context config) Emission.IsQuiet := by
  refine .bind _ (allocate_isSymbol (by decide)) fun transport opened => ?_
  refine .bind _ (allocate_isSymbol (by decide)) fun connection symbol => ?_
  refine .bind _ (liftError_returns fun _ => transportArguments_quiet isUnit)
    fun arguments quiet => ?_
  refine .bind _ (mapM_returns (fun call => emitToolCall_quiet isUnit symbol call) config.calls)
    fun calls each => .pure ⟨forall_mem_singleton.2 (.raw ?_), forall_none, forall_none,
      forall_mem_nil _, forall_none⟩
  have comment : (transportComment config.transport).Quiet := by
    cases config.transport <;> decide
  have callee : (transportClass config.transport).OneLine := by
    cases config.transport <;> decide
  have flat : ∀ line ∈ calls.flatten, line.Quiet := by
    intro line listed
    obtain ⟨lines, among, inside⟩ := mem_flatten.1 listed
    obtain ⟨_, _, quiet⟩ := exists_of_mem_right each among
    exact quiet line inside
  have awaits {rest : Text} (one : rest.OneLine) : Quiet ("await " ++ connection ++ rest) := by
    rw [append_assoc]
    exact .of_opens (by decide) (by decide) (serene_of_oneLine (symbol.oneLine.append one))
  simp only [forall_mem_append, forall_mem_cons]
  refine ⟨⟨⟨⟨comment, quiet_assigned opened (serene_layoutCall isUnit callee quiet)⟩, ?_,
    awaits (by decide), nofun⟩, flat⟩, by decide, by decide, awaits (by decide), nofun⟩
  simp only [append_assoc]
  refine symbol.line rfl (serene_of_oneLine ?_)
  simp +decide only [oneLine_append, opened.oneLine, and_self]

theorem laysQuiet_message (message : Message) :
    (messageLiteral message).LaysQuiet context.unit := by
  have scalar (value : Scalar) : (Literal.scalar value).LaysSerene context.unit :=
    (laysQuiet_scalar value).serene
  refine laysQuiet_dict isUnit ?_
  simp only [forall_mem_cons]
  refine ⟨scalar _, (laysQuiet_list isUnit fun part listed => ?_).serene, ?_⟩
  · obtain ⟨part, _, rfl⟩ := mem_map.1 listed
    refine laysQuiet_dict isUnit ?_
    simp only [forall_mem_cons]
    exact ⟨scalar _, scalar _, forall_mem_nil _⟩
  · split
    · exact forall_mem_singleton.2 (scalar _)
    · exact forall_mem_nil _

theorem runLines_quiet {config : AgentConfig}
    {agent temporary result : Text} {structured : Bool} {lines : List Text} (named : agent.IsSymbol)
    (ran : temporary.IsSymbol) (assigned : result.IsSymbol)
    (done : runLines context config agent temporary result structured = .ok lines) :
    ∀ line ∈ lines, line.Quiet := by
  obtain ⟨conversation, laid, done⟩ := bind_eq_ok.1 done
  obtain ⟨record, laid', same⟩ := bind_eq_ok.1 done
  cases same
  have first : conversation.Serene := by
    refine serene_layout (laysQuiet_list isUnit ?_).serene laid
    refine forall_mem_cons.2 ⟨Literal.laysQuiet_code (by decide), fun item listed => ?_⟩
    obtain ⟨message, _, rfl⟩ := mem_map.1 listed
    exact laysQuiet_message isUnit message
  have second : record.Serene := by
    have code {rest : Text} (one : rest.OneLine) :
        (Literal.code (temporary ++ rest)).LaysSerene context.unit :=
      laysSerene_code (serene_of_oneLine (ran.oneLine.append one))
    refine serene_layout (Literal.LaysQuiet.serene ?_) laid'
    unfold answerRecord
    split
    · refine laysQuiet_dict isUnit ?_
      simp only [forall_mem_cons]
      exact ⟨code (by decide), code (by decide), forall_mem_nil _⟩
    · exact laysQuiet_dict isUnit (forall_mem_singleton.2 (code (by decide)))
  simp only [forall_mem_append, forall_mem_cons]
  refine ⟨⟨quiet_assigned ran (serene_layoutCall isUnit (by decide) ?_), by decide, ?_, by decide,
    nofun⟩, quiet_assigned assigned second⟩
  · simp only [forall_mem_cons]
    exact ⟨Argument.isQuiet_positional named.quiet, isQuiet_named (by decide) first,
      forall_mem_nil _⟩
  · rw [append_assoc]
    exact .of_opens (by decide) (by decide) (serene_of_oneLine (ran.oneLine.append (by decide)))

theorem emitAgent_quiet (config : AgentConfig) :
    Returns (emitAgent context id config) Emission.IsQuiet := by
  have stem : isStem taboo "agent" = true := by decide
  refine .bind _ (allocate_grows (grows_self "agent")) fun agent grown => .then_ fun parts =>
    .then_ fun answer => .then_ fun call => ?_
  refine .bind _ (allocate_grows (grown.append (by decide))) fun temporary ran => ?_
  refine .bind _ (allocate_grows (grown.append (by decide))) fun result assigned => ?_
  refine .bind _ (liftError_returns fun _ => runLines_quiet isUnit (grown.isSymbol stem)
    (ran.isSymbol stem) (assigned.isSymbol stem)) fun lines quiet => ?_
  exact .pure ⟨forall_mem_singleton.2 (.raw quiet), forall_some (assigned.isSymbol stem),
    forall_none, forall_mem_nil _, forall_none⟩

theorem guardedStage_quiet
    (symbols : ∀ name ∈ names.all, name.IsSymbol) :
    Returns (guardedStage context names) Statement.IsQuiet := by
  refine .bind _ (allocate_isSymbol (by decide)) fun failure caught => ?_
  refine .bind _ (allocate_isSymbol (by decide)) fun record described => ?_
  have code : OneLine ("getattr(" ++ failure ++ ", \"message\", \"Unknown error\")") := by
    simp +decide only [oneLine_append, caught.oneLine, and_self]
  refine .bind _ (liftError_returns fun _ => serene_layout (laysQuiet_dict isUnit
    (forall_mem_singleton.2 (laysSerene_code (serene_of_oneLine code)))).serene)
      fun description serene => .pure ?_
  refine .attempt caught (forall_mem_singleton.2 (guardrailStage_quiet symbols)) ?_
  simp only [GuardrailNames.all, forall_mem_cons] at symbols
  obtain ⟨_, input, result, tripwire, checked, output, -⟩ := symbols
  simp only [Block.IsQuiet, forall_mem_cons]
  refine ⟨.raw (quiet_assigned described serene), .raw ?_, forall_mem_nil _⟩
  simp only [forall_mem_cons, append_assoc]
  have handed : OneLine (" = " ++ names.input) := OneLine.append (by decide) input.oneLine
  exact ⟨result.line rfl (by decide), tripwire.line rfl (by decide),
    checked.line rfl (serene_of_oneLine handed), output.line rfl (serene_of_oneLine handed), nofun⟩

theorem emitGuardrail_quiet (named : path.Named)
    (config : GuardrailConfig) :
    Returns (emitGuardrail context path id config) Emission.IsQuiet := by
  refine .bind _ guardrailNames_isSymbol fun names symbols => ?_
  refine .bind _ (liftError_returns fun _ => guardrailSource_oneLine named) fun source one => ?_
  refine .then_ fun entries => .then_ fun bundle => ?_
  have stages := guardrailStage_quiet symbols
  have guarded : Returns (guardedStage context names) Statement.IsQuiet :=
    guardedStage_quiet isUnit symbols
  simp only [GuardrailNames.all, forall_mem_cons] at symbols
  obtain ⟨_, input, _, tripwire, checked, output, -⟩ := symbols
  have both {stage : Statement} (quiet : stage.IsQuiet) :
      Block.IsQuiet [.raw [names.input ++ " = " ++ source], stage] := by
    simp only [Block.IsQuiet, forall_mem_cons]
    refine ⟨.raw (forall_mem_singleton.2 ?_), quiet, forall_mem_nil _⟩
    rw [append_assoc]
    exact input.line rfl (serene_of_oneLine (OneLine.append (by decide) one))
  split
  all_goals
    refine .bind Statement.IsQuiet (by first | exact guarded | exact .pure stages) fun _ quiet => ?_
    exact .pure ⟨both quiet, forall_some output, forall_some checked, forall_mem_nil _,
      forall_some ⟨tripwire.oneLine, forall_some output⟩⟩

/-- **What a node emits spares the names that are taken for granted.** -/
theorem emission_quiet (named : path.Named) {node : Node}
    (plain : ∀ tool ∈ toolsOf node, tool.name.isPlainName = true) :
    Returns (emission context node path) Emission.IsQuiet := by
  unfold emission
  unfold toolsOf at plain
  cases config : node.config with
  | start => exact emitStart_quiet isUnit
  | finish finish => exact emitFinish_quiet isUnit named finish
  | agent agent => exact emitAgent_quiet isUnit agent
  | functionTool call =>
    rw [config] at plain
    exact emitFunctionTool_quiet named (plain _ (mem_singleton.2 rfl))
  | transform source => exact emitTransform_quiet named source
  | setState assignments => exact emitSetState_quiet named assignments
  | branch conditions => exact emitBranch_quiet named conditions
  | loop condition => exact emitLoop_quiet named condition
  | approval message => exact emitApproval_quiet message
  | fileSearch search => exact emitFileSearch_quiet isUnit search
  | mcpTool server => exact emitServer_quiet isUnit server
  | guardrail guardrail => exact emitGuardrail_quiet isUnit named guardrail

end Emit

end AgentFlow
