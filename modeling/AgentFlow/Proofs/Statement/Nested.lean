import AgentFlow.Proofs.Text.Outline
import AgentFlow.Statement.Writer

/-!
# The nesting of written statements

What a statement says is a tree of headers with lines and further headers under them.  Written at
any depth and with any unit of spaces, its lines spell that tree: every line is indented by the
number of headers above it, and under every header there is code one level deeper.  Lines that are
not headers may be indented on their own, but not the first of them nor the first one that is code.
-/

namespace AgentFlow

open List

/-! ## What a statement says -/

/-- Lines one after the other, or a header with what stands under it. -/
inductive Passage where
  | raw (lines : List Text)
  | head (text : Text) (inner : List Passage)

/-- A line, the number of headers that it stands under, and whether it is a header itself. -/
structure Placed where
  nested : Nat
  isHeader : Bool
  text : Text

namespace Passage

mutual

/-- The lines of a passage that stands under so many headers. -/
def placed (nested : Nat) : Passage → List Placed
  | .raw lines => lines.map (Placed.mk nested false)
  | .head text inner => ⟨nested, true, text⟩ :: placedAll (nested + 1) inner
termination_by structural passage => passage

/-- The lines of passages that stand under so many headers. -/
def placedAll (nested : Nat) : List Passage → List Placed
  | [] => []
  | passage :: rest => passage.placed nested ++ placedAll nested rest
termination_by structural passages => passages

end

mutual

/-- The outline of a passage, with those of its lines that are to be read. -/
def outline (keep : Text → Bool) : Passage → List Outline
  | .raw lines => Outline.read keep lines
  | .head text inner => [.line text (outlineAll keep inner)]
termination_by structural passage => passage

def outlineAll (keep : Text → Bool) : List Passage → List Outline
  | [] => []
  | passage :: rest => passage.outline keep ++ outlineAll keep rest
termination_by structural passages => passages

end

/-- Whether some line of passages is code. -/
def holdCode (passages : List Passage) : Bool :=
  (placedAll 0 passages).any fun line => line.text.isCode

/-- What stands under a header: a line that does nothing is added where no line is code. -/
def filled (passages : List Passage) : List Passage :=
  if holdCode passages then passages else passages ++ [.raw ["pass"]]

end Passage

mutual

/-- What a statement says. -/
def Statement.passages : Statement → List Passage
  | .raw lines => [.raw lines]
  | .block body => Block.passages body
  | .branch arms none => Arms.passages "if " arms
  | .branch arms (some body) =>
    Arms.passages "if " arms ++ [.head "else:" (Passage.filled (Block.passages body))]
  | .loop condition body =>
    [.head ("while " ++ condition ++ ":") (Passage.filled (Block.passages body))]
  | .guard condition continuation fallback continueWhen =>
    let goes := Passage.filled (Block.passages continuation)
    let falls := Passage.filled (Block.passages fallback)
    [.head ("if " ++ condition ++ ":") (if continueWhen then goes else falls),
      .head "else:" (if continueWhen then falls else goes)]
  | .ret value => [.raw ["return " ++ value]]
  | .attempt body errorName handler =>
    [.head "try:" (Passage.filled (Block.passages body)),
      .head ("except Exception as " ++ errorName ++ ":") (Passage.filled (Block.passages handler))]
termination_by structural statement => statement

def Block.passages : List Statement → List Passage
  | [] => []
  | statement :: rest => statement.passages ++ Block.passages rest
termination_by structural body => body

/-- What the arms of a branch say, the first of them under the given keyword. -/
def Arms.passages (keyword : Text) : List (Text × List Statement) → List Passage
  | [] => []
  | (condition, body) :: rest =>
    .head (keyword ++ condition ++ ":") (Passage.filled (Block.passages body)) ::
      Arms.passages "elif " rest
termination_by structural arms => arms

end

/-! ## Regular statements -/

/-- Whether a line is not indented. -/
def Text.isFlush (line : Text) : Bool := line.head?.all (!·.isBlank)

/-- Whether neither the first line that is not blank nor the first one that is code is indented. -/
def startsFlush (lines : List Text) : Bool :=
  (lines.find? (!·.isBlank)).all Text.isFlush && (lines.find? Text.isCode).all Text.isFlush

theorem startsFlush_of_flush {lines : List Text} (flush : ∀ line ∈ lines, line.isFlush = true) :
    startsFlush lines = true := by
  have each (keep : Text → Bool) : (lines.find? keep).all Text.isFlush = true := by
    cases found : lines.find? keep with
    | none => rfl
    | some line => exact flush line (mem_of_find?_eq_some found)
  rw [startsFlush, each, each]
  rfl

/-- A statement whose branches have arms and whose lines start without indentation. -/
inductive Statement.Regular : Statement → Prop
  | raw {lines : List Text} (flush : startsFlush lines = true) : Regular (.raw lines)
  | block {body : Block} (inside : ∀ statement ∈ body, Regular statement) : Regular (.block body)
  | branch {arms : List (Text × Block)} {orelse : Option Block} (some : arms ≠ [])
      (inside : ∀ arm ∈ arms, ∀ statement ∈ arm.2, Regular statement)
      (otherwise : ∀ body, orelse = .some body → ∀ statement ∈ body, Regular statement) :
      Regular (.branch arms orelse)
  | loop {condition : Text} {body : Block} (inside : ∀ statement ∈ body, Regular statement) :
      Regular (.loop condition body)
  | guard {condition : Text} {continuation fallback : Block} {continueWhen : Bool}
      (inside : ∀ statement ∈ continuation, Regular statement)
      (otherwise : ∀ statement ∈ fallback, Regular statement) :
      Regular (.guard condition continuation fallback continueWhen)
  | ret {value : Text} : Regular (.ret value)
  | attempt {body handler : Block} {errorName : Text}
      (inside : ∀ statement ∈ body, Regular statement)
      (otherwise : ∀ statement ∈ handler, Regular statement) :
      Regular (.attempt body errorName handler)

/-! ## Writing is laying out lines -/

namespace Writer

variable {writer : Writer}

/-- A writer after lines are written at their depths. -/
def adding (writer : Writer) (lines : List Line) : Writer :=
  { writer with lines := writer.lines ++ lines.map (Line.write writer.unit) }

@[simp] theorem adding_depth (lines : List Line) : (writer.adding lines).depth = writer.depth := rfl

theorem adding_adding (first second : List Line) :
    (writer.adding first).adding second = writer.adding (first ++ second) := by
  simp [adding]

theorem writeln_eq (text : Text) : writer.writeln text = writer.adding [⟨writer.depth, text⟩] := rfl

theorem extend_eq (texts : List Text) :
    writer.extend texts = writer.adding (texts.map (Line.mk writer.depth)) := by
  induction texts generalizing writer with
  | nil => simp [extend, adding]
  | cons text rest ih =>
    show (writer.writeln text).extend rest = _
    rw [ih, writeln_eq, adding_adding]
    rfl

theorem under_eq (header : Text) {body : Block} {write : Writer → Writer}
    (writes : ∀ inner, write inner = inner.adding (Block.lines inner.depth body)) :
    writer.under header body write = writer.adding (⟨writer.depth, header⟩ ::
      Block.filled body (writer.depth + 1) (Block.lines (writer.depth + 1) body)) := by
  simp only [under, indented, writeln_eq, writes, Block.filled]
  split <;> simp [adding]

end Writer

mutual

/-- **Writing a statement adds its lines at the depth of the writer, and leaves that as it is.** -/
theorem Statement.writeOn_eq : ∀ (statement : Statement) (writer : Writer),
    statement.writeOn writer = writer.adding (statement.lines writer.depth)
  | .raw texts, writer => by rw [Statement.writeOn, Writer.extend_eq, Statement.lines]
  | .block body, writer => by rw [Statement.writeOn, Block.writeOn_eq body, Statement.lines]
  | .branch arms none, writer => by rw [Statement.writeOn, Arms.writeOn_eq arms, Statement.lines]
  | .branch arms (some body), writer => by
    rw [Statement.writeOn, Arms.writeOn_eq arms, Writer.under_eq _ (Block.writeOn_eq body),
      Writer.adding_adding, Statement.lines, Writer.adding_depth]
  | .loop condition body, writer => by
    rw [Statement.writeOn, Writer.under_eq _ (Block.writeOn_eq body), Statement.lines]
  | .guard condition continuation fallback true, writer => by
    rw [Statement.writeOn, Writer.under_eq _ (Block.writeOn_eq continuation),
      Writer.under_eq _ (Block.writeOn_eq fallback), Writer.adding_adding, Statement.lines,
      Writer.adding_depth]
  | .guard condition continuation fallback false, writer => by
    rw [Statement.writeOn, Writer.under_eq _ (Block.writeOn_eq fallback),
      Writer.under_eq _ (Block.writeOn_eq continuation), Writer.adding_adding, Statement.lines,
      Writer.adding_depth]
  | .ret value, writer => by rw [Statement.writeOn, Writer.writeln_eq, Statement.lines]
  | .attempt body errorName handler, writer => by
    rw [Statement.writeOn, Writer.under_eq _ (Block.writeOn_eq body),
      Writer.under_eq _ (Block.writeOn_eq handler), Writer.adding_adding, Statement.lines,
      Writer.adding_depth]

theorem Block.writeOn_eq : ∀ (body : Block) (writer : Writer),
    Block.writeOn body writer = writer.adding (Block.lines writer.depth body)
  | [], writer => by simp [Block.writeOn, Block.lines, Writer.adding]
  | statement :: rest, writer => by
    rw [Block.writeOn, statement.writeOn_eq, Block.writeOn_eq rest, Writer.adding_adding,
      Block.lines, Writer.adding_depth]

theorem Arms.writeOn_eq : ∀ (arms : List (Text × Block)) {keyword : Text} (writer : Writer),
    Arms.writeOn keyword arms writer = writer.adding (Arms.lines writer.depth keyword arms)
  | [], keyword, writer => by simp [Arms.writeOn, Arms.lines, Writer.adding]
  | (condition, body) :: rest, keyword, writer => by
    rw [Arms.writeOn, Writer.under_eq _ (Block.writeOn_eq body), Arms.writeOn_eq rest,
      Writer.adding_adding, Arms.lines, Writer.adding_depth]

end

/-! ## The lines of a statement are those of its passages -/

/-- A line that is code and is not indented. -/
def Text.IsHeader (line : Text) : Prop := line.isCode = true ∧ line.isFlush = true

/-- A text that starts with a visible character other than that of a comment. -/
theorem Text.isHeader_of_head (keyword : Text)
    (visible : keyword.head?.any (fun c : CodePoint => !c.isBlank && c ≠ '#') = true)
    (rest : Text) : IsHeader (keyword ++ rest) := by
  cases keyword with
  | nil => cases visible
  | cons c more =>
    obtain ⟨shown, other⟩ : c.isBlank = false ∧ c ≠ .scalar '#' := by simpa using visible
    have comment (tail : Text) : List.isPrefixOf (ofString "#") (c :: tail) = false := by
      show (CodePoint.scalar '#' == c && _) = false
      simp [Ne.symm other]
    constructor
    · simp [isCode, isBlank, trimStart, startsWith, shown, comment]
    · simp [isFlush, shown]

/-- A line at the depth that it has when its statement is written at a given depth. -/
def Placed.line (base : Nat) (placed : Placed) : Line := ⟨base + placed.nested, placed.text⟩

namespace Passage

theorem placedAll_append (nested : Nat) (first second : List Passage) :
    placedAll nested (first ++ second) = placedAll nested first ++ placedAll nested second := by
  induction first with
  | nil => rfl
  | cons passage rest ih =>
    rw [cons_append, placedAll, ih, placedAll, append_assoc]

theorem holdCode_append (first second : List Passage) :
    holdCode (first ++ second) = (holdCode first || holdCode second) := by
  rw [holdCode, placedAll_append, any_append]
  rfl

/-- A passage whose lines start without indentation, and whose headers are code and have code under
them. -/
inductive Sound : Passage → Prop
  | raw {lines} (flush : startsFlush lines = true) : Sound (.raw lines)
  | head {text : Text} {inner} (header : text.IsHeader) (some : holdCode inner = true)
      (inside : ∀ passage ∈ inner, Sound passage) : Sound (.head text inner)

theorem holdCode_filled (passages : List Passage) : holdCode (filled passages) = true := by
  unfold filled
  split
  · assumption
  · rw [holdCode_append]
    exact Bool.or_eq_true_iff.2 (.inr (by decide))

theorem sound_filled {passages : List Passage} (sound : ∀ passage ∈ passages, passage.Sound) :
    ∀ passage ∈ filled passages, passage.Sound := by
  unfold filled
  split
  · exact sound
  · exact forall_mem_append.2 ⟨sound, forall_mem_singleton.2 (.raw (by decide))⟩

/-- What passages say agrees with what is laid out, and with whether that holds code. -/
structure Says (passages : List Passage) (code : Bool) (lines : Nat → List Line) : Prop where
  holds : holdCode passages = code
  laid : ∀ base nested, lines (base + nested) = (placedAll nested passages).map (Placed.line base)
  sound : ∀ passage ∈ passages, passage.Sound

namespace Says

theorem nil : Says [] false fun _ => [] := ⟨rfl, fun _ _ => rfl, nofun⟩

theorem append {first second : List Passage} {code code' : Bool} {lines lines' : Nat → List Line}
    (one : Says first code lines) (two : Says second code' lines') :
    Says (first ++ second) (code || code') fun depth => lines depth ++ lines' depth where
  holds := by rw [holdCode_append, one.holds, two.holds]
  laid base nested := by rw [placedAll_append, map_append, one.laid, two.laid]
  sound := forall_mem_append.2 ⟨one.sound, two.sound⟩

theorem under {body : Block} {header : Text}
    (told : Says (Block.passages body) (Block.hasCode body) fun depth => Block.lines depth body)
    (isHeader : header.IsHeader) :
    Says [.head header (filled (Block.passages body))] true fun depth =>
      ⟨depth, header⟩ :: Block.filled body (depth + 1) (Block.lines (depth + 1) body) where
  holds := by
    rw [holdCode, placedAll, placed, cons_append, any_cons, isHeader.1, Bool.true_or]
  laid base nested := by
    rw [placedAll, placedAll, append_nil, placed, map_cons, filled, told.holds, Block.filled,
      Nat.add_assoc, told.laid]
    split
    · rfl
    · rw [placedAll_append, map_append]
      rfl
  sound := forall_mem_singleton.2
    (.head isHeader (holdCode_filled _) (sound_filled told.sound))

end Says

end Passage

/-- What a statement says agrees with how it is laid out. -/
abbrev Statement.Says (statement : Statement) : Prop :=
  Passage.Says statement.passages statement.hasCode fun depth => statement.lines depth

/-- What statements say agrees with how they are laid out. -/
abbrev Block.Says (body : Block) : Prop :=
  Passage.Says (Block.passages body) (Block.hasCode body) fun depth => Block.lines depth body

theorem Block.told {body : Block} (each : ∀ statement ∈ body, statement.Says) :
    Block.Says body := by
  induction body with
  | nil => exact .nil
  | cons statement rest ih =>
    obtain ⟨first, others⟩ := forall_mem_cons.1 each
    exact first.append (ih others)

theorem Arms.told {arms : List (Text × Block)} (each : ∀ arm ∈ arms, Block.Says arm.2) :
    ∀ keyword : Text, (∀ rest, Text.IsHeader (keyword ++ rest)) →
      Passage.Says (Arms.passages keyword arms) (!arms.isEmpty)
        fun depth => Arms.lines depth keyword arms := by
  induction arms with
  | nil => exact fun _ _ => .nil
  | cons arm rest ih =>
    intro keyword heads
    obtain ⟨condition, body⟩ := arm
    obtain ⟨first, others⟩ := forall_mem_cons.1 each
    have header : Text.IsHeader (keyword ++ condition ++ ":") := by
      rw [append_assoc]
      exact heads _
    exact (first.under header).append (ih others "elif " (Text.isHeader_of_head _ (by decide)))

/-- **A regular statement says what is written for it.** -/
theorem Statement.Regular.told {statement : Statement} (regular : statement.Regular) :
    statement.Says := by
  have heading (keyword : Text)
      (visible : keyword.head?.any (fun c : CodePoint => !c.isBlank && c ≠ '#') = true)
      (rest : Text) : Text.IsHeader (keyword ++ rest ++ ":") := by
    rw [append_assoc]
    exact Text.isHeader_of_head keyword visible _
  have otherwise := Text.isHeader_of_head "else:" (by decide) []
  induction regular with
  | raw flush =>
    refine ⟨?_, fun base nested => ?_, forall_mem_singleton.2 (.raw flush)⟩
    · simp [passages, Passage.holdCode, Passage.placedAll, Passage.placed, hasCode,
        Function.comp_def]
    · simp [passages, Passage.placedAll, Passage.placed, Statement.lines, Placed.line,
        Function.comp_def]
  | block inside ih => exact Block.told ih
  | @branch arms orelse some inside _ ihInside ihOther =>
    have told := Arms.told (fun arm listed => Block.told (ihInside arm listed)) "if "
      (Text.isHeader_of_head _ (by decide))
    rw [List.isEmpty_eq_false_iff.2 some] at told
    cases orelse with
    | none => exact told
    | some body => exact told.append ((Block.told (ihOther body rfl)).under otherwise)
  | @loop condition body inside ih =>
    exact (Block.told ih).under (heading "while " (by decide) condition)
  | @guard condition continuation fallback continueWhen inside _ ihInside ihOther =>
    have goes := Block.told ihInside
    have falls := Block.told ihOther
    have header := heading "if " (by decide) condition
    cases continueWhen with
    | true => exact (goes.under header).append (falls.under otherwise)
    | false => exact (falls.under header).append (goes.under otherwise)
  | @ret value =>
    have header := Text.isHeader_of_head "return " (by decide) value
    refine ⟨?_, fun base nested => ?_, forall_mem_singleton.2 (.raw ?_)⟩
    · simpa [passages, Passage.holdCode, Passage.placedAll, Passage.placed, hasCode] using header.1
    · simp [passages, Passage.placedAll, Passage.placed, Statement.lines, Placed.line]
    · exact startsFlush_of_flush (forall_mem_singleton.2 header.2)
  | attempt inside _ ihInside ihOther =>
    exact ((Block.told ihInside).under (Text.isHeader_of_head "try:" (by decide) [])).append
      ((Block.told ihOther).under (heading "except Exception as " (by decide) _))

/-! ## Lines of a given unit -/

/-- The written form of a line of a statement that is written at a given depth. -/
def Placed.write (unit : Text) (depth : Nat) (placed : Placed) : Text :=
  if placed.text.isEmpty then [] else Text.repeated (depth + placed.nested) unit ++ placed.text

namespace Text

theorem isBlank_repeated {t : Text} (blank : t.isBlank = true) (count : Nat) :
    (repeated count t).isBlank = true := by
  rw [isBlank, repeated, all_flatten, all_eq_true]
  intro piece listed
  rwa [(mem_replicate.1 listed).2]

theorem repeated_spaces (width count : Nat) :
    (repeated count (repeated width " ")).isBlank = true ∧
      (repeated count (repeated width " ")).length = width * count := by
  refine ⟨isBlank_repeated (isBlank_repeated (by decide) width) count, ?_⟩
  have one : List.length (ofString " ") = 1 := rfl
  simp [repeated, one, Nat.mul_comm]

variable {line : Text}

theorem margin_of_isFlush (flush : line.isFlush = true) : line.margin = 0 := by
  cases line with
  | nil => rfl
  | cons c rest => simp_all [isFlush, margin]

theorem trimStart_of_isFlush (flush : line.isFlush = true) : line.trimStart = line := by
  cases line with
  | nil => rfl
  | cons c rest => simp_all [isFlush, trimStart]

end Text

section Written

variable {width depth : Nat}

variable {placed : Placed}

theorem Placed.margin_write (some : placed.text ≠ []) :
    (placed.write (Text.repeated width " ") depth).margin =
      width * (depth + placed.nested) + placed.text.margin := by
  obtain ⟨blank, length⟩ := Text.repeated_spaces width (depth + placed.nested)
  rw [write, if_neg (by simpa using some), Text.margin_indented blank, length]

theorem Placed.trimStart_write (some : placed.text ≠ []) :
    (placed.write (Text.repeated width " ") depth).trimStart = placed.text.trimStart := by
  obtain ⟨blank, -⟩ := Text.repeated_spaces width (depth + placed.nested)
  rw [write, if_neg (by simpa using some), Text.trimStart_indented blank]

/-! ## Reading written lines -/

/-- A choice of the lines that are to be read: all code, and no empty line; and how a line is
indented makes no difference. -/
structure Keeps (keep : Text → Bool) : Prop where
  indented : ∀ {indent : Text}, indent.isBlank = true → ∀ line, keep (indent ++ line) = keep line
  empty : keep [] = false
  code : ∀ line : Text, line.isCode = true → keep line = true
  flush : ∀ lines, startsFlush lines = true → (lines.find? keep).all Text.isFlush = true

theorem keeps_filled : Keeps fun line => !line.isBlank where
  indented blank line := by rw [Text.isBlank_indented blank]
  empty := rfl
  code _ code := (Bool.and_eq_true_iff.1 code).1
  flush _ flush := (Bool.and_eq_true_iff.1 flush).1

theorem keeps_code : Keeps Text.isCode where
  indented blank line := Text.isCode_indented blank line
  empty := rfl
  code _ code := code
  flush _ flush := (Bool.and_eq_true_iff.1 flush).2

theorem Keeps.write {keep : Text → Bool} (keeps : Keeps keep) (placed : Placed) :
    keep (placed.write (Text.repeated width " ") depth) = keep placed.text := by
  unfold Placed.write
  split
  · rename_i empty
    rw [List.isEmpty_iff.1 empty]
  · exact keeps.indented (Text.repeated_spaces _ _).1 _

theorem Keeps.ne_nil {keep : Text → Bool} (keeps : Keeps keep) {line : Text}
    (kept : keep line = true) : line ≠ [] := by
  rintro rfl
  rw [keeps.empty] at kept
  cases kept

/-- The margins and texts of those written lines that are to be read. -/
def measured (keep : Text → Bool) (width depth : Nat) (lines : List Placed) : List (Nat × Text) :=
  ((lines.map (Placed.write (Text.repeated width " ") depth)).filter keep).map Outline.measure

theorem measured_append (keep : Text → Bool) (first second : List Placed) :
    measured keep width depth (first ++ second) =
      measured keep width depth first ++ measured keep width depth second := by
  simp [measured]

theorem reads_placedAll {keep : Text → Bool} {passages : List Passage} {nested : Nat}
    (each : ∀ passage ∈ passages, Outline.Reads (width * (depth + nested))
      (measured keep width depth (passage.placed nested)) (passage.outline keep)) :
    Outline.Reads (width * (depth + nested))
      (measured keep width depth (Passage.placedAll nested passages))
      (Passage.outlineAll keep passages) := by
  induction passages with
  | nil => exact .nil _
  | cons passage rest ih =>
    obtain ⟨first, others⟩ := forall_mem_cons.1 each
    rw [Passage.placedAll, measured_append, Passage.outlineAll]
    exact first.append (ih others)

variable {keep : Text → Bool} (keeps : Keeps keep)

include keeps

/-- What is read of lines at one level is what is read of them alone, indented to that level. -/
theorem measured_raw (nested : Nat) (lines : List Text) :
    measured keep width depth (lines.map (Placed.mk nested false)) =
      ((lines.filter keep).map Outline.measure).map fun line =>
        (width * (depth + nested) + line.1, line.2) := by
  induction lines with
  | nil => rfl
  | cons line rest ih =>
    rw [map_cons, ← singleton_append, measured_append, ih]
    by_cases kept : keep line = true
    · have some : (Placed.mk nested false line).text ≠ [] := keeps.ne_nil kept
      simp [measured, keeps.write, kept, Outline.measure, Placed.margin_write some,
        Placed.trimStart_write some]
    · simp [measured, keeps.write, kept]

/-- **The written lines of a sound passage are read as its outline.** -/
theorem reads_placed (positive : 0 < width) {passage : Passage} (sound : passage.Sound) :
    ∀ nested, Outline.Reads (width * (depth + nested))
      (measured keep width depth (passage.placed nested)) (passage.outline keep) := by
  induction sound with
  | @raw lines flush =>
    intro nested
    rw [Passage.placed, measured_raw keeps]
    refine .shifted _ fun line found => ?_
    rw [head?_map, head?_filter] at found
    obtain ⟨first, kept, rfl⟩ := Option.map_eq_some_iff.1 found
    have starts := keeps.flush lines flush
    rw [kept] at starts
    exact Text.margin_of_isFlush starts
  | @head text inner header some inside ih =>
    intro nested
    have kept := keeps.code text header.1
    have filled : (Placed.mk nested true text).text ≠ [] := keeps.ne_nil kept
    have first : measured keep width depth [⟨nested, true, text⟩] =
        [(width * (depth + nested), text)] := by
      simp [measured, keeps.write, kept, Outline.measure, Placed.margin_write filled,
        Placed.trimStart_write filled, Text.margin_of_isFlush header.2,
        Text.trimStart_of_isFlush header.2]
    rw [Passage.placed, ← singleton_append, measured_append, first]
    have deeper : width * (depth + nested) < width * (depth + (nested + 1)) :=
      Nat.mul_lt_mul_of_pos_left (by omega) positive
    exact .nested text deeper (reads_placedAll fun passage listed => ih passage listed _)

end Written

/-! ## Code under headers -/

/-- Every header is code, and under it, before the next line that does not stand under it, there is
a line of code that stands directly under it. -/
def Headed (lines : List Placed) : Prop :=
  ∀ before header after, lines = before ++ header :: after → header.isHeader = true →
    header.text.IsHeader ∧ ∃ skipped found rest, after = skipped ++ found :: rest ∧
      (∀ other ∈ skipped, header.nested < other.nested) ∧
      found.nested = header.nested + 1 ∧ found.text.IsHeader

namespace Headed

variable {first second : List Placed}

theorem append (one : Headed first) (two : Headed second) : Headed (first ++ second) := by
  intro before header after same isHeader
  rcases append_eq_append_iff.1 same with ⟨more, rfl, rest⟩ | ⟨more, rfl, rest⟩
  · exact two more header after rest isHeader
  · cases more with
    | nil => exact two [] header after (by simpa using rest.symm) isHeader
    | cons head tail =>
      obtain ⟨rfl, rfl⟩ := List.cons.inj rest
      obtain ⟨code, skipped, found, last, rfl, holds⟩ := one before header tail rfl isHeader
      exact ⟨code, skipped, found, last ++ second, by simp, holds⟩

theorem raw (nested : Nat) (lines : List Text) : Headed (lines.map (Placed.mk nested false)) := by
  intro before header after same isHeader
  have listed : header ∈ lines.map (Placed.mk nested false) := by simp [same]
  obtain ⟨line, -, rfl⟩ := mem_map.1 listed
  cases isHeader

end Headed

namespace Passage

variable {passages : List Passage} {nested : Nat} {passage : Passage}

theorem forall_mem_placedAll {property : Placed → Prop}
    (each : ∀ passage ∈ passages, ∀ line ∈ passage.placed nested, property line) :
    ∀ line ∈ placedAll nested passages, property line := by
  induction passages with
  | nil => nofun
  | cons passage rest ih =>
    obtain ⟨first, others⟩ := forall_mem_cons.1 each
    exact forall_mem_append.2 ⟨first, ih others⟩

theorem headed_placedAll (each : ∀ passage ∈ passages, Headed (passage.placed nested)) :
    Headed (placedAll nested passages) := by
  induction passages with
  | nil => exact .raw nested []
  | cons passage rest ih =>
    obtain ⟨first, others⟩ := forall_mem_cons.1 each
    exact first.append (ih others)

theorem Sound.nested_le (sound : passage.Sound) :
    ∀ nested, ∀ line ∈ passage.placed nested, nested ≤ line.nested := by
  induction sound with
  | raw flush =>
    intro nested line listed
    obtain ⟨text, -, rfl⟩ := mem_map.1 listed
    exact le_rfl
  | head header some inside ih =>
    intro nested
    refine forall_mem_cons.2 ⟨le_rfl, forall_mem_placedAll fun passage listed line here => ?_⟩
    exact (Nat.le_succ nested).trans (ih passage listed (nested + 1) line here)

theorem exists_header (sound : ∀ passage ∈ passages, passage.Sound)
    (code : holdCode passages = true) (nested : Nat) :
    ∃ line ∈ placedAll nested passages, line.nested = nested ∧ line.text.IsHeader := by
  induction passages with
  | nil => cases code
  | cons passage rest ih =>
    obtain ⟨first, others⟩ := forall_mem_cons.1 sound
    rw [← singleton_append, holdCode_append, Bool.or_eq_true_iff] at code
    rw [placedAll]
    rcases code with here | later
    · cases first with
      | @raw lines flush =>
        have some : (lines.find? Text.isCode).isSome := by
          simpa [holdCode, placedAll, placed] using here
        obtain ⟨line, found⟩ := Option.isSome_iff_exists.1 some
        have starts := (Bool.and_eq_true_iff.1 flush).2
        rw [found] at starts
        refine ⟨⟨nested, false, line⟩, mem_append_left _ ?_, rfl, find?_some found, starts⟩
        exact mem_map_of_mem (mem_of_find?_eq_some found)
      | head header => exact ⟨_, mem_append_left _ mem_cons_self, rfl, header⟩
    · obtain ⟨line, listed, holds⟩ := ih others later
      exact ⟨line, mem_append_right _ listed, holds⟩

theorem Sound.headed (sound : passage.Sound) : ∀ nested, Headed (passage.placed nested) := by
  induction sound with
  | raw flush => exact fun nested => .raw nested _
  | @head text inner header some inside ih =>
    intro nested before found after same isHeader
    cases before with
    | nil =>
      obtain ⟨rfl, rfl⟩ := List.cons.inj same
      obtain ⟨line, listed, directly, code⟩ := exists_header inside some (nested + 1)
      obtain ⟨skipped, rest, split⟩ := append_of_mem listed
      refine ⟨header, skipped, line, rest, split, fun other among => ?_, directly, code⟩
      have deep := forall_mem_placedAll fun passage listed =>
        (inside passage listed).nested_le (nested + 1)
      exact deep other (split ▸ mem_append_left _ among)
    | cons first others =>
      have later := headed_placedAll fun passage listed => ih passage listed (nested + 1)
      exact later others found after (List.cons.inj same).2 isHeader

end Passage

/-! ## Written statements -/

section Statements

variable {statement : Statement} {width depth : Nat} {header : Placed}

/-- The written lines of a statement are read as the outline of what it says. -/
theorem Statement.read_of_says (told : statement.Says) (positive : 0 < width) {keep : Text → Bool}
    (keeps : Keeps keep) :
    Outline.read keep ((Passage.placedAll 0 statement.passages).map
        (Placed.write (Text.repeated width " ") depth)) =
      Passage.outlineAll keep statement.passages :=
  (reads_placedAll fun passage listed =>
    reads_placed keeps positive (told.sound passage listed) 0).read

theorem Placed.blank_or_deeper (positive : 0 < width) {other : Placed} (code : header.text.IsHeader)
    (deeper : header.nested < other.nested) :
    (other.write (Text.repeated width " ") depth).isBlank = true ∨
      (header.write (Text.repeated width " ") depth).margin <
        (other.write (Text.repeated width " ") depth).margin := by
  by_cases empty : other.text = []
  · exact .inl (by rw [write, empty]; rfl)
  · rw [margin_write (keeps_code.ne_nil code.1), margin_write empty, Text.margin_of_isFlush code.2]
    refine .inr (Nat.lt_of_lt_of_le ?_ (Nat.le_add_right _ _))
    exact Nat.mul_lt_mul_of_pos_left (by omega) positive

/-- Under every written header there is code one level deeper. -/
theorem Statement.code_under_header (told : statement.Says) (positive : 0 < width)
    {before after : List Placed}
    (same : Passage.placedAll 0 statement.passages = before ++ header :: after)
    (isHeader : header.isHeader = true) :
    ∃ skipped line rest,
      after.map (Placed.write (Text.repeated width " ") depth) = skipped ++ line :: rest ∧
        (∀ other ∈ skipped, other.isBlank = true ∨
          (header.write (Text.repeated width " ") depth).margin < other.margin) ∧
        line.isCode = true ∧
        (header.write (Text.repeated width " ") depth).margin = width * (depth + header.nested) ∧
        line.margin = width * (depth + header.nested + 1) := by
  have headed := Passage.headed_placedAll fun passage listed => (told.sound passage listed).headed 0
  obtain ⟨code, skipped, found, rest, rfl, deeper, directly, foundCode⟩ :=
    headed before header after same isHeader
  refine ⟨_, _, _, by rw [map_append, map_cons], fun other listed => ?_, ?_, ?_, ?_⟩
  · obtain ⟨placed, among, rfl⟩ := mem_map.1 listed
    exact Placed.blank_or_deeper positive code (deeper placed among)
  · rw [keeps_code.write]
    exact foundCode.1
  · rw [Placed.margin_write (keeps_code.ne_nil code.1), Text.margin_of_isFlush code.2, Nat.add_zero]
  · rw [Placed.margin_write (keeps_code.ne_nil foundCode.1), Text.margin_of_isFlush foundCode.2,
      directly, Nat.add_zero, Nat.add_assoc]

end Statements

/-- **Indentation tells the nesting of a statement.**  Writing a statement leaves the writer at its
depth and adds the lines of what the statement says, each indented by the headers above it; under
every header there is code one level deeper, before the next line that is indented no more than the
header; and the lines are read as the outline of what the statement says, with and without comments.
-/
theorem indentation_tells_nesting {statement : Statement} (regular : statement.Regular)
    {width : Nat} (positive : 0 < width) {writer : Writer}
    (spaces : writer.unit = Text.repeated width " ") :
    ∃ written, statement.writeOn writer = { writer with lines := writer.lines ++ written } ∧
      written = (Passage.placedAll 0 statement.passages).map
        (Placed.write writer.unit writer.depth) ∧
      (∀ before header after, Passage.placedAll 0 statement.passages = before ++ header :: after →
        header.isHeader = true → ∃ skipped line rest,
          after.map (Placed.write writer.unit writer.depth) = skipped ++ line :: rest ∧
            (∀ other ∈ skipped, other.isBlank = true ∨
              (header.write writer.unit writer.depth).margin < other.margin) ∧
            line.isCode = true ∧
            (header.write writer.unit writer.depth).margin =
              width * (writer.depth + header.nested) ∧
            line.margin = width * (writer.depth + header.nested + 1)) ∧
      Outline.read (fun line => !line.isBlank) written =
        Passage.outlineAll (fun line => !line.isBlank) statement.passages ∧
      Outline.read Text.isCode written = Passage.outlineAll Text.isCode statement.passages := by
  have told := regular.told
  refine ⟨_, ?_, rfl, ?_, ?_, ?_⟩
  · rw [statement.writeOn_eq, Writer.adding, ← Nat.add_zero writer.depth, told.laid, map_map]
    rfl
  · rw [spaces]
    exact fun before header after => Statement.code_under_header told positive
  · rw [spaces]
    exact Statement.read_of_says told positive keeps_filled
  · rw [spaces]
    exact Statement.read_of_says told positive keeps_code

/-- Code that nests by itself, before a guard that goes on when its condition does not hold, with a
branch on one side and nothing but an empty sequence on the other. -/
def watching : Statement :=
  .block [.raw ["# all of them", "for item in items:", "    watch(item)", ""],
    .guard "failed" [.branch [("late", [.ret "late"]), ("lost", [.raw ["# given up"]])] (some [])]
      [.block []] false]

theorem watching_regular : watching.Regular := by
  refine .block (forall_mem_cons.2 ⟨.raw (by decide), forall_mem_singleton.2 ?_⟩)
  refine .guard (forall_mem_singleton.2 (.branch (by simp) ?_ ?_))
    (forall_mem_singleton.2 (.block nofun))
  · refine forall_mem_cons.2 ⟨forall_mem_singleton.2 .ret, ?_⟩
    exact forall_mem_singleton.2 (forall_mem_singleton.2 (.raw (by decide)))
  · rintro body ⟨⟩
    nofun

/-- At the second level, the guard is read as two headers with its fallback under the first one. -/
theorem watching_tells_nesting :
    watching.Regular ∧ ∃ written,
      watching.writeOn { depth := 1 } = { depth := 1, lines := written } ∧
        Outline.read Text.isCode written =
          [.line "for item in items:" [.line "watch(item)" []],
            .line "if failed:" [.line "pass" []],
            .line "else:" [.line "if late:" [.line "return late" []],
              .line "elif lost:" [.line "pass" []], .line "else:" [.line "pass" []]]] := by
  have two : ({ depth := 1 } : Writer).unit = Text.repeated 2 " " := rfl
  obtain ⟨written, writes, -, -, -, read⟩ :=
    indentation_tells_nesting watching_regular (Nat.zero_lt_two) two
  exact ⟨watching_regular, written, writes, read.trans rfl⟩

end AgentFlow
