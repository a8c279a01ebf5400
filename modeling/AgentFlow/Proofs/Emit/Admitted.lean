import AgentFlow.Proofs.Emit.Asking
import AgentFlow.Proofs.Emit.Quiet
import AgentFlow.Proofs.Layout.Hanging
import AgentFlow.Proofs.Schema.Fields

/-!
# What nodes add to a module

Before its entry point a module imports known names, defines functions and classes and assigns what
was handed out; further lines of all these are indented.  So of the names that generated code takes
for granted only those can be bound that a workflow gives to its function tools.
-/

namespace AgentFlow

open List Text

/-! ## Lines at the margin -/

namespace Text

/-- Of the names that are taken for granted, a line binds only those of a list, and it does not
start an asynchronous function. -/
structure BindsOnly (names : List Text) (line : Text) : Prop where
  sync : line.leading ≠ "async"
  names : ∀ name ∈ builtinNames, line.binds name = true → name ∈ names

/-- All lines of a text bind only names of a list, among those that are taken for granted. -/
def Admits (names : List Text) (t : Text) : Prop := ∀ line ∈ t.trimEnd.lines, line.BindsOnly names

variable {t line rest margin word name : Text} {names more : List Text} {c : CodePoint}

theorem bindsOnly_of_leading (free : line.leading ∉ watched) : line.BindsOnly names := by
  refine ⟨fun same => free (same ▸ by decide), fun name known bound => ?_⟩
  rw [binds_of_leading free known] at bound
  cases bound

theorem BindsOnly.mono (only : line.BindsOnly names) (subset : names ⊆ more) :
    line.BindsOnly more :=
  ⟨only.sync, fun name known bound => subset (only.names name known bound)⟩

theorem Quiet.admits (quiet : t.Quiet) (names : List Text) : t.Admits names := fun line listed =>
  bindsOnly_of_leading (quiet.trimEnd.lines line listed).leading

theorem Admits.mono (admits : t.Admits names) (subset : names ⊆ more) : t.Admits more :=
  fun line listed => (admits line listed).mono subset

theorem admits_of_solid (solid : t.Solid) (only : t.BindsOnly names) : t.Admits names := by
  unfold Admits
  rw [solid.trimEnd, lines_of_oneLine solid.one]
  exact forall_mem_singleton.2 only

theorem trimEnd_prefix (t : Text) : t.trimEnd <+: t := by
  unfold trimEnd
  rw [← reverse_suffix, reverse_reverse]
  exact dropWhile_suffix _

theorem Solid.trimEnd_append (solid : t.Solid) (front : Text) :
    Text.trimEnd (front ++ t) = front ++ t := by
  obtain ⟨body, last, rfl, visible⟩ := solid.ends
  simp [Text.trimEnd, visible]

/-- A line that does not start with a word binds nothing. -/
theorem admits_of_leading (one : t.OneLine) (blank : t.leading = []) (names : List Text) :
    Admits names t := by
  have starts := trimEnd_prefix t
  have single : t.trimEnd.OneLine := fun member => one (starts.subset member)
  have none : t.trimEnd.leading = [] := by
    obtain ⟨more, whole⟩ := starts
    rw [← whole] at blank
    cases shape : t.trimEnd with
    | nil => rfl
    | cons c rest =>
      rw [shape, leading, cons_append, takeWhile_cons] at blank
      split at blank
      · cases blank
      · next stop => exact leading_of_stop (by simpa using stop)
  unfold Admits
  rw [lines_of_oneLine single]
  exact forall_mem_singleton.2 (bindsOnly_of_leading (none ▸ nil_notMem_watched))

variable {head unit : Text}

def definers : List Text := ["def ", "class "]

theorem binds_definition (listed : head ∈ definers) (visible : c.isBlank = false) (name : Text) :
    leading (head ++ c :: rest) ≠ "async" ∧
      binds (head ++ c :: rest) name = decide (leading (c :: rest) = name) := by
  have facts : ∀ head ∈ definers, head.any (!·.isWord) = true ∧ head.leading ≠ "async" ∧
      head.leading ∈ (["def", "class", "for"] : List Text) := by decide
  obtain ⟨ended, sync, defines⟩ := facts head listed
  have first : leading (head ++ c :: rest) = head.leading := leading_append_of_any ended _
  have follows : following (head ++ c :: rest) = c :: rest := by
    have kept : trimStart (c :: rest) = c :: rest := by simp [trimStart, visible]
    simp only [definers, mem_cons, not_mem_nil, or_false] at listed
    rcases listed with rfl | rfl <;> exact kept
  refine ⟨by rwa [first], ?_⟩
  unfold binds
  rw [statement_append ended sync, first, follows]
  exact if_pos defines

theorem bindsOnly_definition (listed : head ∈ definers) (visible : c.isBlank = false)
    (admitted : leading (c :: rest) ∈ builtinNames → leading (c :: rest) ∈ names) :
    BindsOnly names (head ++ c :: rest) := by
  refine ⟨(binds_definition listed visible []).1, fun name known bound => ?_⟩
  rw [(binds_definition listed visible name).2, decide_eq_true_eq] at bound
  subst bound
  exact admitted known

/-- Whatever follows a word without going on with it, the word is what a function is called. -/
theorem binds_function (words : ∀ c ∈ word, c.isWord = true) (some : word ≠ [])
    (stop : ∀ c ∈ rest.head?, c.isWord = false) :
    BindsOnly [word] ("def " ++ (word ++ rest)) ∧ binds ("def " ++ (word ++ rest)) word = true := by
  obtain ⟨c, more, rfl⟩ := exists_cons_of_ne_nil some
  have named : leading (c :: (more ++ rest)) = c :: more := by
    rw [← cons_append, leading_append_of_head stop, leading, takeWhile_eq_self_iff.2 words]
  have visible := isBlank_of_isWord (words c mem_cons_self)
  refine ⟨bindsOnly_definition (by decide) visible fun _ => mem_singleton.2 named, ?_⟩
  exact (binds_definition (by decide) visible _).2.trans (decide_eq_true named)

theorem dropLineBreak_ne_nil (plain : name.isPlainName = true) : name.dropLineBreak ≠ [] := by
  intro empty
  unfold isPlainName at plain
  rw [empty] at plain
  cases plain

/-- The header of the function of a tool binds the name of the tool, also where a line break stands
after the name. -/
theorem admits_toolHeader {code : Text} (plain : name.isPlainName = true) (one : code.OneLine) :
    Admits [name.dropLineBreak] ("def " ++ name ++ "(" ++ code ++ "):") ∧
      ∃ line ∈ (trimEnd ("def " ++ name ++ "(" ++ code ++ "):")).lines,
        line.binds name.dropLineBreak = true := by
  obtain ⟨plain', shape⟩ := plain_dropLineBreak plain
  have some := dropLineBreak_ne_nil plain
  generalize name.dropLineBreak = word at plain' shape some ⊢
  have words : ∀ c ∈ word, c.isWord = true := fun c member => by
    simp [CodePoint.isWord, plain' c member]
  have single : word.OneLine := fun member =>
    absurd (isBlank_of_isWord (words _ member)) (by decide)
  obtain ⟨after, text, solid, stop⟩ : ∃ after : Text,
      "def " ++ name ++ "(" ++ code ++ "):" = ("def " : Text) ++ (name ++ after) ∧ Solid after ∧
        ∀ c ∈ after.head?, c.isWord = false := by
    refine ⟨"(" ++ code ++ "):", by simp only [append_assoc],
      ⟨?_, "(" ++ code ++ ")", ':', ?_, ?_⟩, by rintro c ⟨⟩; decide⟩
    · exact (OneLine.append (by decide) one).append (by decide)
    · simp [ofString, ofChars]
    · decide
  rw [text]
  -- without a line break the header is one line, with it the name is the end of the first one
  rcases shape with rfl | rfl
  · have whole : Solid (("def " : Text) ++ (name ++ after)) :=
      (solid.append single).append (by decide)
    obtain ⟨only, bound⟩ := binds_function words some stop
    refine ⟨admits_of_solid whole only, _, ?_, bound⟩
    rw [whole.trimEnd, lines_of_oneLine whole.one]
    exact mem_singleton.2 rfl
  · have lines : Text.lines (trimEnd (("def " : Text) ++ (word ++ [.scalar '\n'] ++ after))) =
        [("def " : Text) ++ word, after] := by
      rw [← append_assoc, solid.trimEnd_append, append_assoc, append_assoc,
        singleton_append, ← append_assoc,
        lines_break (OneLine.append (by decide) single), lines_of_oneLine solid.one]
    obtain ⟨only, bound⟩ :=
      binds_function words some (show ∀ c ∈ ([] : Text).head?, c.isWord = false by simp)
    rw [append_nil] at only bound
    have none : after.leading = [] := leading_append_of_head stop []
    unfold Admits
    rw [lines]
    exact ⟨forall_mem_cons.2 ⟨only, forall_mem_singleton.2
      (bindsOnly_of_leading (none ▸ nil_notMem_watched))⟩, _, mem_cons_self, bound⟩

theorem admits_classHeader (visible : c.isBlank = false) (one : OneLine (c :: rest))
    (free : leading (c :: rest ++ "(BaseModel):") ∉ builtinNames) (names : List Text) :
    Admits names ("class " ++ (c :: rest) ++ "(BaseModel):") := by
  have close : Solid ("(BaseModel):" : Text) :=
    ⟨by decide, "(BaseModel)", ':', by decide, by decide⟩
  rw [append_assoc]
  exact admits_of_solid ((close.append one).append (by decide))
    (bindsOnly_definition (by decide) visible fun listed => absurd listed free)

/-- No name that is taken for granted has the word in it that classes for answers carry. -/
theorem admits_answerClass {allocated : Text} (plain : ∀ c ∈ allocated, c.continuesPlainName = true)
    (marked : Text.ofString "Schema" <:+: allocated) (named : allocated <+: name)
    (one : name.OneLine) (names : List Text) :
    Admits names ("class " ++ name ++ "(BaseModel):") := by
  have words : ∀ c ∈ allocated, c.isWord = true := fun c member => by
    simp [CodePoint.isWord, plain c member]
  have absent : ∀ name ∈ builtinNames, ¬ Text.ofString "Schema" <:+: name := by decide
  obtain ⟨more, rfl⟩ := named
  obtain ⟨c, rest, rfl⟩ : ∃ c rest, allocated = c :: rest :=
    exists_cons_of_ne_nil fun empty => by
      rw [empty] at marked
      exact absurd marked (by decide)
  refine admits_classHeader (isBlank_of_isWord (words c mem_cons_self)) one (fun listed => ?_) names
  refine absent _ listed (marked.trans ?_)
  show c :: rest <:+: leading ((c :: rest ++ more) ++ Text.ofString "(BaseModel):")
  rw [append_assoc, leading_append words]
  exact (prefix_append _ _).isInfix

instance : Decidable (line.BindsOnly names) :=
  decidable_of_iff (line.leading ≠ "async" ∧
      ∀ name ∈ builtinNames, line.binds name = true → name ∈ names)
    ⟨fun both => ⟨both.1, both.2⟩, fun only => ⟨only.sync, only.names⟩⟩

instance : Decidable (t.Admits names) :=
  inferInstanceAs (Decidable (∀ line ∈ t.trimEnd.lines, line.BindsOnly names))

/-! ## Lines of declarations -/

variable {lines watch : List Text}

theorem admits_hanging (each : ∀ line ∈ lines, line.OneLine ∧ line.leading = []) :
    ∀ line ∈ lines, line.Admits watch := fun line listed =>
  admits_of_leading (each line listed).1 (each line listed).2 watch

theorem Indents.hanging (indents : unit.Indents) (one : t.OneLine) :
    OneLine (unit ++ t) ∧ leading (unit ++ t) = [] :=
  ⟨indents.gaps.oneLine.append one, leading_of_inset (indents.inset (hangs_of_oneLine one))⟩

theorem Indents.deeper (indents : unit.Indents) (depth : Nat) (one : t.OneLine) :
    OneLine (Text.repeated (depth + 1) unit ++ t) ∧
      leading (Text.repeated (depth + 1) unit ++ t) = [] := by
  have gaps : OneLine (Text.repeated depth unit) := fun member => by
    obtain ⟨copy, copies, inside⟩ := mem_flatten.1 member
    exact indents.gaps.oneLine (eq_of_mem_replicate copies ▸ inside)
  have inside := indents.hanging (gaps.append one)
  rwa [← append_assoc] at inside

theorem hanging_nil : OneLine [] ∧ leading [] = [] := by decide

/-- The first line of an assignment starts with a symbol, and the others with no word. -/
theorem admits_assigned {source : Text} (symbol : name.IsSymbol) (hangs : source.Hangs) :
    ∀ line ∈ assignmentLines name source, line.Admits watch := by
  have front : OneLine (name ++ " = ") := symbol.oneLine.append (by decide)
  have first {start : Text} (one : start.OneLine) : Admits watch (name ++ " = " ++ start) := by
    rw [append_assoc]
    exact (symbol.line rfl (serene_of_oneLine (OneLine.append (by decide) one))).admits watch
  unfold assignmentLines
  rcases oneLine_or_break source with single | ⟨start, rest, single, rfl⟩
  · rw [lines_of_oneLine (front.append single)]
    exact forall_mem_singleton.2 (first single)
  · rw [← append_assoc, lines_break (front.append single)]
    exact forall_mem_cons.2 ⟨first single, admits_hanging fun line listed =>
      ⟨oneLine_of_mem_lines rest line listed, Inset.lines hangs.right_of_append line listed⟩⟩

end Text

theorem Schema.RecordClass.admits_header {unit : Text} {cls : RecordClass} {watch : List Text}
    (indents : unit.Indents) (head : Admits watch ("class " ++ cls.name ++ "(BaseModel):"))
    (fields : ∀ field ∈ cls.fields, field.name.OneLine ∧ field.type.OneLine) :
    ∀ line ∈ cls.header unit, line.Admits watch := by
  refine forall_mem_cons.2 ⟨head, admits_hanging ?_⟩
  split
  · exact forall_mem_singleton.2 (indents.hanging (by decide))
  · intro line listed
    obtain ⟨field, among, rfl⟩ := mem_map.1 listed
    obtain ⟨name, type⟩ := fields field among
    have absent : OneLine (if field.required = true then [] else " | None = None") := by
      split <;> decide
    unfold Schema.Field.line
    simp only [append_assoc]
    exact indents.hanging (name.append (OneLine.append (by decide) (type.append absent)))

namespace Emit

open Workflow Stoppable

variable {context : Context} {id name unit base : Text} {watch taken later : List Text}
  {tool : FunctionTool} {declaration : Module.Declaration} {config : AgentConfig}
  {answer : Option Schema.Typed}

/-! ### Function tools -/

theorem Parameter.Fits.oneLine {parameter : Parameter} (fits : parameter.Fits) :
    parameter.text.OneLine := by
  have optional : OneLine (if parameter.required then ([] : Text) else " = None") := by
    split <;> decide
  obtain ⟨schema, type⟩ := fits.typed
  unfold Parameter.text
  rw [type]
  exact (((oneLine_of_isIdentifier fits.identifier).append (by decide)).append
    (Schema.oneLine_typeName schema)).append optional

theorem oneLine_parameters {found : List Parameter} (listed : parameters tool = .ok found) :
    OneLine (join ", " (found.map Parameter.text)) := by
  refine oneLine_join (show OneLine ", " by decide) fun text among => ?_
  obtain ⟨parameter, inside, rfl⟩ := mem_map.1 among
  exact (parameters_fit listed parameter inside).oneLine

theorem admits_header {code : Text} (plain : name.isPlainName = true) (one : code.OneLine)
    (known : name.dropLineBreak ∈ builtinNames → name.dropLineBreak ∈ watch) :
    Admits watch ("def " ++ name ++ "(" ++ code ++ "):") := by
  intro line part
  have only := (admits_toolHeader plain one).1 line part
  refine ⟨only.sync, fun name builtin bound => ?_⟩
  have same := mem_singleton.1 (only.names name builtin bound)
  exact same ▸ known (same ▸ builtin)

theorem toolDeclaration_admits (indents : unit.Indents) (plain : tool.name.isPlainName = true)
    (known : tool.name.dropLineBreak ∈ watch) (done : toolDeclaration tool unit = .ok declaration) :
    ∀ line ∈ declaration.lines, line.Admits watch := by
  obtain ⟨found, listed, same⟩ := Except.bind_eq_ok.1 done
  cases same
  refine forall_mem_cons.2
    ⟨admits_header plain (oneLine_parameters listed) fun _ => known, admits_hanging ?_⟩
  refine forall_mem_append.2 ⟨?_, forall_mem_cons.2
    ⟨indents.hanging (by decide), forall_mem_singleton.2 hanging_nil⟩⟩
  split
  · exact forall_mem_singleton.2 (indents.hanging (oneLine_doubleQuoted _))
  · exact forall_mem_nil _

/-! ### Assigned declarations -/

theorem isSymbol_of_handed (handed : Handed taken later base name)
    (stemmed : isStem taboo base = true) : name.IsSymbol := by
  obtain ⟨digits, rfl, areDigits⟩ := handed.grown
  exact ((grows_self base).append fun c member => by
    simp [CodePoint.continuesPlainName, areDigits c member]).isSymbol stemmed

theorem hangs_layout {entries : List (Text × Literal)} {source : Text}
    (indents : context.unit.Indents) (done : layout context (.dict entries) = .ok source) :
    source.Hangs := by
  unfold layout at done
  split at done
  · next found =>
      cases done
      exact hangs_layout_dict indents found
  · cases done

theorem webSearchDeclaration_admits {symbol : Text} {search : WebSearch}
    (indents : context.unit.Indents) (assigned : symbol.IsSymbol)
    (done : webSearchDeclaration context symbol search = .ok declaration) :
    ∀ line ∈ declaration.lines, line.Admits watch := by
  obtain ⟨location, _, same⟩ := Except.bind_eq_ok.1 done
  cases same
  exact admits_assigned assigned (hangs_layoutCall indents (by decide) rfl)

theorem agentCall_hangs (indents : context.unit.Indents) {sources : List Text} {call : Text}
    (done : agentCall context config sources answer = .ok call) : call.Hangs := by
  unfold agentCall at done
  dsimp only at done
  split at done
  · cases done
    exact hangs_layoutCall indents (by decide) (by cases answer <;> rfl)
  · obtain ⟨source, _, same⟩ := Except.bind_eq_ok.1 done
    cases same
    exact hangs_layoutCall indents (by decide) (by cases answer <;> rfl)

/-! ### Classes -/

theorem continues_of_isBase (usable : SymbolTable.isBase base = true) (one : base.OneLine) :
    ∀ c ∈ base, c.continuesPlainName = true := by
  rw [SymbolTable.isBase, Bool.and_eq_true] at usable
  obtain ⟨plain, whole | broken⟩ := plain_dropLineBreak usable.1
  · rwa [← whole] at plain
  · refine absurd ?_ one
    rw [broken]
    exact mem_append_right _ mem_cons_self

/-- The name for the classes of an answer is plain, and carries a word. -/
theorem plain_of_handed (handed : Handed taken later (Schema.pascal config.name ++ "Schema") name) :
    (∀ c ∈ name, c.continuesPlainName = true) ∧ Text.ofString "Schema" <:+: name := by
  obtain ⟨digits, rfl, areDigits⟩ := handed.grown
  have base : OneLine (Schema.pascal config.name ++ "Schema") :=
    (Schema.oneLine_pascal _).append (by decide)
  have isDigits : ∀ c ∈ digits, c.continuesPlainName = true := fun c member => by
    simp [CodePoint.continuesPlainName, areDigits c member]
  exact ⟨forall_mem_append.2 ⟨continues_of_isBase handed.usable base, isDigits⟩,
    Schema.pascal config.name, digits, rfl⟩

theorem classLines_admit {cls : Schema.RecordClass} (indents : unit.Indents)
    (plain : ∀ c ∈ name, c.continuesPlainName = true) (marked : Text.ofString "Schema" <:+: name)
    (fits : cls.Fits name) : ∀ line ∈ cls.lines unit, line.Admits watch := by
  have head := admits_answerClass plain marked fits.named fits.one watch
  refine forall_mem_append.2 ⟨cls.admits_header indents head fun field among => ?_,
    admits_hanging (by decide)⟩
  have usable := (fits.fields field among).usable
  rw [Schema.isFieldName, Bool.and_eq_true] at usable
  exact ⟨oneLine_of_isIdentifier usable.1, (fits.fields field among).one⟩

theorem Answers.admits (indents : unit.Indents) (answers : Answers taken later config answer) :
    ∀ line ∈ classLines unit answer, line.Admits watch := by
  cases answers with
  | plain => nofun
  | @structured place name schema typed asked handed made =>
    obtain ⟨plain, marked⟩ := plain_of_handed handed
    have one : name.OneLine := fun member => absurd (plain _ member) (by decide)
    rw [classLines, Option.toList_some, flatMap_singleton]
    intro line listed
    obtain ⟨cls, among, own⟩ := mem_flatMap.1 listed
    exact classLines_admit indents plain marked (Schema.recordClass_fits one _ made cls among)
      line own

/-! ### All declarations -/

theorem clientDeclaration_admits : ∀ line ∈ clientDeclaration.lines, line.Admits watch :=
  fun line listed => Quiet.admits
    ((show ∀ line ∈ clientDeclaration.lines, line.Quiet by decide) line listed) watch

theorem helperDeclaration_admits (indents : unit.Indents) :
    ∀ line ∈ (helperDeclaration unit).lines, line.Admits watch := by
  have deeper (depth : Nat) {text : Text} (one : text.OneLine) := indents.deeper depth one
  have helper {header : Text} {rest : List Text} (free : header.Admits [])
      (each : ∀ line ∈ rest, line.OneLine ∧ line.leading = []) :
      ∀ line ∈ ([] :: header :: rest : List Text), line.Admits watch :=
    forall_mem_cons.2 ⟨admits_of_leading hanging_nil.1 hanging_nil.2 watch,
      forall_mem_cons.2 ⟨free.mono (nil_subset watch), admits_hanging each⟩⟩
  refine forall_mem_append.2 ⟨forall_mem_append.2 ⟨helper (by decide) ?_, helper (by decide) ?_⟩,
    helper (by decide) ?_⟩
  · exact forall_mem_singleton.2 (indents.hanging (by decide))
  · simp only [forall_mem_cons]
    exact ⟨deeper 0 (by decide), deeper 1 (by decide), deeper 1 (by decide), deeper 2 (by decide),
      deeper 0 (by decide), forall_mem_nil _⟩
  · simp only [forall_mem_cons]
    exact ⟨deeper 0 (by decide), deeper 0 (by decide), deeper 1 (by decide), deeper 2 (by decide),
      deeper 2 (by decide), deeper 3 (by decide), deeper 2 (by decide), deeper 2 (by decide),
      deeper 3 (by decide), deeper 4 (by decide), deeper 2 (by decide), deeper 0 (by decide),
      forall_mem_nil _⟩

theorem approvalDeclaration_admits {stub : Text} (indents : unit.Indents) (symbol : stub.IsSymbol) :
    ∀ line ∈ (approvalDeclaration unit id stub).lines, line.Admits watch := by
  obtain ⟨c, rest, shape, starts⟩ := symbol.starts
  have plain : stub.isPlainName = true := by
    rw [shape] at symbol ⊢
    exact isPlainName_cons starts (forall_mem_cons.1 symbol.plain).2
  have whole : stub.dropLineBreak = stub := (plain_dropLineBreak plain).2.elim Eq.symm fun broken =>
    absurd (broken ▸ mem_append_right _ mem_cons_self) symbol.oneLine
  have first : Admits watch ("def " ++ stub ++ "(" ++ "message: str" ++ "):") :=
    admits_header plain (by decide) fun known =>
      absurd (mem_append_right _ (mem_append_right _ (whole ▸ known))) symbol.free
  rw [append_assoc, append_assoc] at first
  exact forall_mem_cons.2 ⟨first, admits_hanging (forall_mem_cons.2 ⟨indents.hanging (by decide),
    forall_mem_cons.2 ⟨indents.hanging (by decide), forall_mem_singleton.2 hanging_nil⟩⟩)⟩

/-- The names that the function tools of a node give to functions. -/
def toolNames (node : Node) : List Text := (toolsOf node).map fun tool => tool.name.dropLineBreak

theorem Served.admits {tools : List AgentTool} {parts : List ToolParts}
    (indents : context.unit.Indents) (served : Served context taken later tools parts)
    (plain : ∀ function, .function function ∈ tools →
      function.name.isPlainName = true ∧ function.name.dropLineBreak ∈ watch) :
    ∀ declaration ∈ parts.flatMap ToolParts.declarations, ∀ line ∈ declaration.lines,
      line.Admits watch := by
  induction served with
  | nil => nofun
  | cons grown grown' first rest ih =>
    rw [flatMap_cons]
    refine forall_mem_append.2 ⟨?_, ih fun _ listed => plain _ (.tail _ listed)⟩
    cases first with
    | @function tool declaration imports declared =>
      obtain ⟨plain, known⟩ := plain tool mem_cons_self
      rw [← toolNamed_name context tool] at plain known
      exact forall_mem_singleton.2 (toolDeclaration_admits indents plain known declared)
    | webSearch handed declared =>
      exact forall_mem_singleton.2 (webSearchDeclaration_admits indents
        (isSymbol_of_handed handed (by decide)) declared)

/-- **Of the names that are taken for granted, what a node declares binds only those of its function
tools.** -/
theorem Asks.admits {node : Node} {emission : Emission} (indents : context.unit.Indents)
    (asks : Asks context taken later node.id node.config emission)
    (plain : ∀ tool ∈ toolsOf node, tool.name.isPlainName = true) :
    ∀ declaration ∈ emission.declarations, ∀ line ∈ declaration.lines,
      line.Admits (toolNames node) := by
  have known : ∀ tool ∈ toolsOf node, tool.name.isPlainName = true ∧
      tool.name.dropLineBreak ∈ toolNames node := fun tool used =>
    ⟨plain tool used, mem_map_of_mem used⟩
  generalize toolNames node = watch at known ⊢
  unfold toolsOf at known
  generalize node.config = config at asks known
  cases asks with
  | nothing other none => exact none ▸ nofun
  | fileSearch declared =>
    exact declared ▸ forall_mem_singleton.2 clientDeclaration_admits
  | @functionTool call emission declaration made declared =>
    obtain ⟨plain, named⟩ := known _ (mem_singleton.2 rfl)
    rw [← toolNamed_name context call.tool] at plain named
    exact declared ▸ forall_mem_singleton.2 (toolDeclaration_admits indents plain named made)
  | approval handed declared =>
    exact declared ▸ forall_mem_singleton.2
      (approvalDeclaration_admits indents (isSymbol_of_handed handed (by decide)))
  | guardrail handed laid declared =>
    rw [declared]
    refine forall_mem_cons.2 ⟨clientDeclaration_admits, forall_mem_cons.2
      ⟨?_, forall_mem_singleton.2 (helperDeclaration_admits indents)⟩⟩
    exact admits_assigned (isSymbol_of_handed handed (by decide)) (hangs_layout indents laid)
  | agent handed served grown answers made declared =>
    have tools := served.admits indents fun function listed =>
      known function (mem_filterMap.2 ⟨_, listed, rfl⟩)
    rw [declared]
    refine forall_mem_append.2 ⟨tools, forall_mem_singleton.2 ?_⟩
    refine forall_mem_append.2 ⟨forall_mem_append.2 ⟨answers.admits indents, ?_⟩, ?_⟩
    · exact admits_assigned (isSymbol_of_handed handed (by decide)) (agentCall_hangs indents made)
    · exact admits_hanging (by decide)

end Emit

end AgentFlow
