import AgentFlow.Proofs.Linear.Gathered
import AgentFlow.Proofs.Module.Renamed

/-!
# What stands in a module

The text of a module is made of lines: those of its imports, of its declarations, of the input class
and of the body.  Every line of a declaration that is not blank stands in the text, up to the white
space at its end.
-/

namespace AgentFlow

open List Workflow Emit Stoppable

/-! ## Texts of lines -/

namespace Text

variable {line first : Text} {pieces rest : List Text} {c : CodePoint}

theorem lines_append_break (first rest : Text) :
    lines (first ++ .scalar '\n' :: rest) = first.lines ++ rest.lines :=
  splitOn_append_cons '\n' first rest

theorem lines_unlines (some : pieces ≠ []) : (unlines pieces).lines = pieces.flatMap lines := by
  induction pieces with
  | nil => exact absurd rfl some
  | cons piece rest ih =>
    cases rest with
    | nil => simp [unlines, join]
    | cons next others =>
      rw [unlines_cons (by simp), lines_append_break, ih (by simp)]
      rfl

theorem infix_unlines_cons (member : line ∈ rest) :
    (.scalar '\n' :: line) <:+: unlines (first :: rest) := by
  induction rest generalizing first with
  | nil => cases member
  | cons next others ih =>
    rw [unlines_cons (by simp)]
    refine List.IsInfix.trans ?_ (suffix_append first _).isInfix
    rcases mem_cons.1 member with rfl | later
    · cases others with
      | nil => exact infix_refl _
      | cons _ _ =>
        rw [unlines_cons (by simp)]
        exact (prefix_append (.scalar '\n' :: line) _).isInfix
    · exact (ih later).trans (suffix_cons _ _).isInfix

theorem prefix_trimEnd {front after : Text} (visible : c.isBlank = false) :
    (front ++ [c]) <+: trimEnd (front ++ c :: after) := by
  have shape : (front ++ c :: after).reverse = after.reverse ++ c :: front.reverse := by simp
  unfold trimEnd
  rw [shape, dropWhile_append]
  split
  · simp [visible]
  · rw [reverse_append]
    simp only [reverse_cons, reverse_reverse]
    exact prefix_append _ _

theorem trimEnd_of_visible (front : Text) (visible : c.isBlank = false) :
    trimEnd (front ++ [c]) = front ++ [c] := by
  simp [trimEnd, visible]

end Text

/-! ## Sections -/

namespace Module

variable {builder : Builder} {line : Text}

theorem mem_dropTrailingBlanks {lines : List Text} (member : line ∈ lines)
    (visible : line.isBlank = false) : line ∈ dropTrailingBlanks lines := by
  unfold dropTrailingBlanks
  rw [mem_reverse]
  have whole : line ∈ lines.reverse.takeWhile Text.isBlank ++
      lines.reverse.dropWhile Text.isBlank := by
    rwa [takeWhile_append_dropWhile, mem_reverse]
  refine (mem_append.1 whole).resolve_left fun blank => ?_
  exact absurd (mem_takeWhile_imp blank) (by simp [visible])

theorem subset_dropTrailingBlanks (lines : List Text) : dropTrailingBlanks lines ⊆ lines := by
  intro line member
  exact mem_reverse.1 ((dropWhile_sublist _).subset (mem_reverse.1 member))

variable {declarations declared : List Declaration} {draft last : Draft} {imported : List Import}

theorem mem_appendDeclarations {written : List Text}
    (listed : line ∈ written ∨ ∃ declaration ∈ declarations, line ∈ declaration.lines)
    (visible : line.isBlank = false) :
    ∀ previous, line ∈ appendDeclarations written previous declarations := by
  induction declarations generalizing written with
  | nil =>
    intro previous
    exact listed.resolve_right nofun
  | cons declaration rest ih =>
    intro previous
    refine ih ?_ _
    rcases listed with before | ⟨other, among, inside⟩
    · exact .inl (mem_append_left _ (mem_append_left _ before))
    · rcases mem_cons.1 among with rfl | later
      · exact .inl (mem_append_right _ (mem_dropTrailingBlanks inside visible))
      · exact .inr ⟨other, later, inside⟩

theorem mem_sections {declaration : Declaration} (declared : declaration ∈ builder.declarations)
    (inside : line ∈ declaration.lines) (visible : line.isBlank = false) :
    line ∈ Section.all.flatMap (sectionLines builder) := by
  have listed : declaration.group ∈ Section.all := by cases declaration.group <;> decide
  refine mem_flatMap.2 ⟨declaration.group, listed, ?_⟩
  have own : declaration ∈ builder.inSection declaration.group :=
    mem_filter.2 ⟨declared, by simp⟩
  unfold sectionLines
  split
  · next empty =>
      rw [empty] at own
      cases own
  · refine mem_append_right _ (mem_append_left _ ?_)
    exact mem_appendDeclarations (.inr ⟨declaration, own, inside⟩) visible []

theorem of_mem_appendDeclarations :
    ∀ {written previous : List Text}, line ∈ appendDeclarations written previous declarations →
      line = [] ∨ line ∈ written ∨ ∃ declaration ∈ declarations, line ∈ declaration.lines := by
  induction declarations with
  | nil =>
    intro written previous member
    exact .inr (.inl member)
  | cons declaration rest ih =>
    intro written previous member
    rcases ih member with empty | before | ⟨other, among, inside⟩
    · exact .inl empty
    · simp only [append_assoc, mem_append] at before
      rcases before with before | gap | current
      · exact .inr (.inl before)
      · split at gap
        · cases gap
        · split at gap <;> exact .inl (by simpa using gap)
      · exact .inr (.inr ⟨declaration, by simp, subset_dropTrailingBlanks _ current⟩)
    · exact .inr (.inr ⟨other, mem_cons_of_mem _ among, inside⟩)

theorem of_mem_sections (member : line ∈ Section.all.flatMap (sectionLines builder)) :
    line = [] ∨ (∃ group : Section, group.header? = some line) ∨
      ∃ declaration ∈ builder.declarations, line ∈ declaration.lines := by
  obtain ⟨group, _, inside⟩ := mem_flatMap.1 member
  unfold sectionLines at inside
  split at inside
  · cases inside
  · rcases mem_append.1 inside with header | written
    · exact .inr (.inl ⟨group, by simpa using header⟩)
    · rcases mem_append.1 written with written | last
      · rcases of_mem_appendDeclarations written with empty | before | ⟨declaration, own, among⟩
        · exact .inl empty
        · cases before
        · exact .inr (.inr ⟨declaration, (mem_filter.1 own).1, among⟩)
      · exact .inl (by simpa using last)

/-! ## The input class -/

def inputField (required : List Json) (property : Text × Json) : Schema.Field :=
  ⟨property.1, Schema.typeName property.2, Json.str property.1 ∈ required⟩

/-- The import that a property of the input needs, if it needs one. -/
def inputImport (property : Text × Json) : List Import :=
  if Schema.typeName property.2 = Schema.anyType then [anyImport] else []

theorem inputFields_run {required : List Json} {properties : Entries} :
    ∀ {draft last : Draft} {fields : List Schema.Field} {imported : List Import},
      Holds draft.module declared imported →
      inputFields required properties draft = (.ok fields, last) →
        fields = properties.map (inputField required) ∧
        (∀ property ∈ properties, isInputField property.1 = true) ∧
        Holds last.module declared (imported ++ properties.flatMap inputImport) := by
  induction properties with
  | nil =>
    intro draft last fields imported holds done
    cases done
    exact ⟨rfl, nofun, by rwa [flatMap_nil, append_nil]⟩
  | cons property rest ih =>
    obtain ⟨name, schema⟩ := property
    intro draft last fields imported holds done
    unfold inputFields at done
    split at done
    · next usable =>
        dsimp only at done
        obtain ⟨middle, others, kept, walked, rfl⟩ : ∃ middle others,
            Holds middle.module declared (imported ++ inputImport (name, schema)) ∧
            inputFields required rest middle = (.ok others, last) ∧
            fields = inputField required (name, schema) :: others := by
          unfold inputImport
          split at done
          · next any =>
              obtain ⟨_, middle, added, more⟩ := bind_eq_ok.1 done
              obtain ⟨others, _, walked, returned⟩ := bind_eq_ok.1 more
              cases added
              cases returned
              rw [if_pos any]
              exact ⟨_, others, addImport_holds holds anyImport, walked, rfl⟩
          · next plain =>
              obtain ⟨others, _, walked, returned⟩ := bind_eq_ok.1 done
              cases returned
              rw [if_neg plain, append_nil]
              exact ⟨draft, others, holds, walked, rfl⟩
        obtain ⟨rfl, usable', holds'⟩ := ih kept walked
        rw [flatMap_cons, ← append_assoc]
        exact ⟨rfl, forall_mem_cons.2 ⟨usable, usable'⟩, holds'⟩
    · cases done

/-- The input class has a field for each property of the input, under the name of the property. -/
structure IsInputClass (context : Context) (properties : Entries) (record : Schema.RecordClass) :
    Prop where
  name : record.name = context.settings.inputClassName
  given : (context.graph.workflow.inputSchema.getOr "properties" (.obj [])).entries = .ok properties
  fields : ∃ required, record.fields = properties.map (inputField required)
  usable : ∀ property ∈ properties, isInputField property.1 = true

theorem liftError_eq_ok {α : Type} {result : Except Error α} {value : α}
    (done : (liftError result : Build α) draft = (.ok value, last)) :
    result = .ok value ∧ last = draft := by
  cases result with
  | error found => cases done
  | ok found =>
    cases done
    exact ⟨rfl, rfl⟩

theorem inputClass_run {context : Context} {record : Schema.RecordClass}
    (holds : Holds draft.module declared imported)
    (done : inputClass context draft = (.ok record, last)) :
    ∃ properties, IsInputClass context properties record ∧
      Holds last.module declared (imported ++ properties.flatMap inputImport) := by
  obtain ⟨required, _, first, done⟩ := bind_eq_ok.1 done
  obtain ⟨properties, _, second, done⟩ := bind_eq_ok.1 done
  obtain ⟨fields, _, third, returned⟩ := bind_eq_ok.1 done
  obtain ⟨_, rfl⟩ := liftError_eq_ok first
  obtain ⟨found, rfl⟩ := liftError_eq_ok second
  cases returned
  obtain ⟨same, usable, kept⟩ := inputFields_run holds third
  exact ⟨properties, ⟨rfl, liftShape_eq_ok.1 found, ⟨required, same⟩, usable⟩, kept⟩

/-! ## The whole module -/

def preamble (context : Context) (builder : Builder) (record : Schema.RecordClass) : List Text :=
  importLines builder.imports ++ [[]] ++ Section.all.flatMap (sectionLines builder) ++
    record.header context.unit ++ [([] : Text), ([] : Text), "# Main code entrypoint"]

def written (context : Context) (builder : Builder) (record : Schema.RecordClass)
    (body : Statement) : Text :=
  Text.unlines ((preamble context builder record ++ entryLine context.settings ::
    bodyLines context.unit body).map Text.trimEnd) ++ "\n"

theorem assemble_run {context : Context} {body : Statement} {source : Text}
    (holds : Holds draft.module declared imported)
    (done : assemble context body draft = (.ok source, last)) :
    ∃ builder record properties, source = written context builder record body ∧
      IsInputClass context properties record ∧
      Holds builder declared (imported ++ properties.flatMap inputImport ++ baseImports) := by
  obtain ⟨record, middle, made, done⟩ := bind_eq_ok.1 done
  obtain ⟨_, later, imported, done⟩ := bind_eq_ok.1 done
  obtain ⟨properties, isClass, holds⟩ := inputClass_run holds made
  obtain ⟨other, run, holds⟩ := importAll_holds baseImports middle holds
  obtain ⟨_, rfl⟩ := Prod.mk.inj (run.symm.trans imported)
  cases done
  refine ⟨_, record, properties, ?_, isClass, holds⟩
  simp only [written, preamble, append_assoc, cons_append, nil_append]

variable {context : Context} {record : Schema.RecordClass} {body : Statement}

/-- A line before the entry point stands in the module, up to white space at its end. -/
theorem infix_written (member : line ∈ Section.all.flatMap (sectionLines builder) ++
    record.header context.unit) :
    (.scalar '\n' :: line.trimEnd) <:+: written context builder record body := by
  obtain ⟨first, rest, shape, inside⟩ : ∃ first rest, preamble context builder record =
      first :: rest ∧ line ∈ rest := by
    unfold preamble
    cases importLines builder.imports with
    | nil => exact ⟨[], _, rfl, mem_append_left _ member⟩
    | cons first others =>
      refine ⟨first, _, rfl, ?_⟩
      rcases mem_append.1 member with inSection | inHeader
      · exact mem_append_left _ (mem_append_left _ (mem_append_right _ inSection))
      · exact mem_append_left _ (mem_append_right _ inHeader)
  unfold written
  rw [shape, cons_append, map_cons]
  refine List.IsInfix.trans ?_ (prefix_append _ _).isInfix
  exact Text.infix_unlines_cons (mem_map_of_mem (mem_append_left _ inside))

theorem lines_written : (written context builder record body).lines =
    (preamble context builder record).flatMap (fun line => line.trimEnd.lines) ++
      (entryLine context.settings).trimEnd.lines ++
      (bodyLines context.unit body).flatMap (fun line => line.trimEnd.lines) ++ [[]] := by
  unfold written
  show Text.lines (_ ++ .scalar '\n' :: []) = _
  rw [Text.lines_append_break, Text.lines_unlines (by simp)]
  simp [flatMap_map, append_assoc, Text.lines, Text.splitOn]

end Module

/-- How the text of a module came about: a route through the graph was found, and the module was
written from what the calls on it have asked for. -/
structure Origin (graph : Graph) (context : Context) (draft last : Draft) (route : Linear.Route)
    (builder : Module.Builder) (properties : Entries) (record : Schema.RecordClass)
    (source : Text) : Prop where
  started : start graph context.settings = .ok (context, draft)
  surveyed : Linear.survey graph (notingEmitter context) draft = (.ok route, last)
  follows : Linear.Follows graph (some (.start graph.entryId)) {} route
  text : source = Module.written context builder record (.block route.block)
  isClass : Module.IsInputClass context properties record
  holds : Holds builder (route.calls.flatMap fun call => call.emission.declarations)
    (route.calls.flatMap (fun call => call.emission.imports) ++
      properties.flatMap Module.inputImport ++ Module.baseImports)

namespace Origin

variable {graph : Graph} {context : Context} {draft last : Draft} {route : Linear.Route}
  {builder : Module.Builder} {properties : Entries} {record : Schema.RecordClass} {source : Text}
  (origin : Origin graph context draft last route builder properties record source)

include origin

theorem declared (declaration : Module.Declaration) : declaration ∈ builder.declarations ↔
      ∃ call ∈ route.calls, declaration ∈ call.emission.declarations := by
  rw [origin.holds.declarations, mem_eraseDups, mem_flatMap]

theorem imported (wanted : Module.Import) : wanted ∈ builder.imports ↔
      ((∃ call ∈ route.calls, wanted ∈ call.emission.imports) ∨
        ∃ property ∈ properties, wanted ∈ Module.inputImport property) ∨
      wanted ∈ Module.baseImports := by
  rw [origin.holds.imports, mem_eraseDups, mem_append, mem_append, mem_flatMap, mem_flatMap]

end Origin

/-- **Every module that is generated has an origin.** -/
theorem exists_origin {graph : Graph} {settings : Settings} {source : Text}
    (generated : generateSource graph settings = .ok source) :
    ∃ context draft last route builder properties record, context.settings = settings ∧
      Origin graph context draft last route builder properties record source := by
  obtain ⟨context, draft, last, started, done⟩ := generateSource_eq_ok_iff.1 generated
  obtain ⟨block, middle, walked, assembling⟩ := bind_eq_ok.1 done
  obtain ⟨text, later, assembled, noting⟩ := bind_eq_ok.1 assembling
  obtain ⟨_, _, _, returned⟩ := bind_eq_ok.1 noting
  obtain ⟨_, _, _, returned⟩ := bind_eq_ok.1 returned
  cases returned
  obtain ⟨route, surveyed, follows, rfl, holds⟩ := exists_route_of_body started walked
  obtain ⟨builder, record, properties, rfl, isClass, holds⟩ := Module.assemble_run holds assembled
  have same : context.settings = settings := by
    obtain ⟨tools, _, _, rfl, _⟩ := start_eq_ok_iff.1 started
    rfl
  exact ⟨context, draft, middle, route, builder, properties, record, same, same ▸ started, surveyed,
    follows, rfl, isClass, holds⟩

end AgentFlow
