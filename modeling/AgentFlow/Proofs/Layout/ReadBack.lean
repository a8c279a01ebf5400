import AgentFlow.Proofs.Layout.Literal
import AgentFlow.Statement.Basic

/-!
# Values survive every layer of layout

A value is laid out, indented and put into calls any number of times; the assignment of the result
is split into lines, written at some depth and trimmed.  The grammar reads it as an assignment of
code in which every literal has the value that it was laid out for.
-/

namespace AgentFlow

open List
open Target (Code Keyword PlainName Writes Laid LaidKeyword callArguments)

/-! ## Pieces of source -/

/-- What a call calls: a field of a field of a name, and whether the call is awaited. -/
structure Callee where
  awaited : Bool
  root : Text
  fields : List Text

namespace Callee

def path (callee : Callee) : Text :=
  callee.fields.foldl (fun text field => text ++ "." ++ field) callee.root

def text (callee : Callee) : Text :=
  if callee.awaited then "await " ++ callee.path else callee.path

def applied (callee : Callee) (arguments : List Code) (keywords : List (Keyword Code)) : Code :=
  let call := Code.call (callee.fields.foldl .attr (.name callee.root)) arguments keywords
  if callee.awaited then .await call else call

/-- All names can be written as they are. -/
def Plain (callee : Callee) : Prop := ∀ name ∈ callee.root :: callee.fields, PlainName name

instance (callee : Callee) : Decidable callee.Plain :=
  inferInstanceAs (Decidable (∀ name ∈ callee.root :: callee.fields, PlainName name))

end Callee

/-- A piece of source: the literal of a value, a line of code with what it is read as, a piece whose
further lines are indented, or a call of pieces, those with names after the others. -/
inductive Piece where
  | literal (value : Json)
  | code (source : Text) (tree : Code)
  | shifted (piece : Piece)
  | call (callee : Callee) (arguments : List Piece) (keywords : List (Text × Piece))

namespace Piece

mutual

def source (unit : Text) : Piece → Except Literal.Fault Text
  | .literal value => Literal.layout unit (.ofJson value)
  | .code source _ => .ok source
  | .shifted piece => do return indentTail unit (← piece.source unit)
  | .call callee arguments keywords => do
    let sources ← sourceAll unit arguments
    let entries ← sourceNamed unit keywords
    return layoutCall callee.text (callArguments sources entries) unit

def sourceAll (unit : Text) : List Piece → Except Literal.Fault (List Text)
  | [] => .ok []
  | piece :: rest => do
    let first ← piece.source unit
    let others ← sourceAll unit rest
    return first :: others

def sourceNamed (unit : Text) : List (Text × Piece) → Except Literal.Fault (List (Text × Text))
  | [] => .ok []
  | (name, piece) :: rest => do
    let first ← piece.source unit
    let others ← sourceNamed unit rest
    return (name, first) :: others

end

mutual

/-- A piece whose values are such as documents have, with finite numbers and without surrogates, and
whose names and lines of code can be written as they are. -/
def Sound : Piece → Prop
  | .literal value => value.Everywhere Json.Held ∧ value.Everywhere Json.Plain
  | .code source tree =>
    Writes .or source tree ∧ ∃ front last, source = front ++ [last] ∧ last.isBlank = false
  | .shifted piece => piece.Sound
  | .call callee arguments keywords => callee.Plain ∧ SoundAll arguments ∧ SoundNamed keywords

def SoundAll : List Piece → Prop
  | [] => True
  | piece :: rest => piece.Sound ∧ SoundAll rest

def SoundNamed : List (Text × Piece) → Prop
  | [] => True
  | (name, piece) :: rest => PlainName name ∧ piece.Sound ∧ SoundNamed rest

end

mutual

/-- Code is what a piece stands for: a literal of exactly its value, its tree, or a call with
arguments that are what its pieces stand for. -/
def Means : Piece → Code → Prop
  | .literal value, read => read.literal? = some value
  | .code _ tree, read => read = tree
  | .shifted piece, read => piece.Means read
  | .call callee arguments keywords, read => ∃ values named,
    read = callee.applied values named ∧ MeansAll arguments values ∧ MeansNamed keywords named

def MeansAll : List Piece → List Code → Prop
  | [], [] => True
  | piece :: rest, read :: others => piece.Means read ∧ MeansAll rest others
  | _, _ => False

/-- Arguments with names are what pieces with the same names stand for, one by one. -/
def MeansNamed : List (Text × Piece) → List (Keyword Code) → Prop
  | [], [] => True
  | (name, piece) :: rest, keyword :: keywords =>
    keyword.name = some name ∧ piece.Means keyword.value ∧ MeansNamed rest keywords
  | _, _ => False

end

end Piece

/-! ## Assignments -/

/-- The text of an assignment at a depth, its lines written and trimmed. -/
def assignedText (unit : Text) (depth : Nat) (target source : Text) : Text :=
  Text.unlines (((Statement.raw (assignmentLines target source)).render unit depth).map
    Text.trimEnd)

/-- The name and the code of an assignment that stands behind spaces. -/
def readAssignment (text : Text) : Option (Text × Code) := do
  let chars ← Text.toChars? (text.dropWhile (· = .scalar ' '))
  match ← Target.tokenize chars with
  | .name target :: .op "=" :: tokens =>
    let (code, rest) ← Target.readTop (40 * (chars.length + 1)) tokens
    if rest.all (· = .newline) then some (target, code) else none
  | _ => none

/-! ## Pieces are laid out -/

section Pieces

open Target (Named)

theorem Callee.laid_call {callee : Callee} (plain : callee.Plain) {sources : List Text}
    {values : List Code} {entries : List (Text × Text)} {keywords : List (Keyword Code)}
    (positional : List.Forall₂ (Laid .or) sources values)
    (keyed : List.Forall₂ LaidKeyword entries keywords) (unit : Nat) :
    Laid .or (layoutCall callee.text (callArguments sources entries) (spaces unit))
      (callee.applied values keywords) := by
  obtain ⟨root, fields⟩ := forall_mem_cons.1 plain
  obtain ⟨tokens, named, read⟩ := Target.named_path (Target.named_of_plainName root)
    ((Target.reads_name callee.root).loosen (by decide)) fields
  have laid := Target.laid_call named read positional keyed unit
  rw [Callee.text, Callee.applied]
  split
  · -- The word before the call is not part of what is called.
    have shape : layoutCall ("await " ++ callee.path) (callArguments sources entries)
        (spaces unit) =
          "await " ++ layoutCall callee.path (callArguments sources entries) (spaces unit) := by
      simp only [layoutCall, enclosed]
      split <;> simp only [append_assoc]
    rw [shape]
    exact laid.awaited.whole
  · exact laid.whole

mutual

/-- A sound piece has a source, which is laid out for code that it stands for. -/
theorem Piece.laid (unit : Nat) : ∀ piece : Piece, piece.Sound →
    ∃ source code, piece.source (spaces unit) = .ok source ∧ Laid .or source code ∧
      piece.Means code
  | .literal value, sound => by
    rw [Piece.Sound] at sound
    obtain ⟨held, plain⟩ := sound
    obtain ⟨source, written, laid⟩ := Target.laid_json value held plain unit
    exact ⟨source, value.code, by rw [Piece.source, written], laid.whole,
      by rw [Piece.Means, Json.literal?_code value held]⟩
  | .code source tree, sound => by
    rw [Piece.Sound] at sound
    exact ⟨source, tree, by rw [Piece.source], .of_writes sound.1 sound.2, by rw [Piece.Means]⟩
  | .shifted piece, sound => by
    rw [Piece.Sound] at sound
    obtain ⟨source, code, written, laid, means⟩ := Piece.laid unit piece sound
    refine ⟨indentTail (spaces unit) source, code, ?_, laid.indentTail unit, ?_⟩
    · rw [Piece.source, written]
      rfl
    · rwa [Piece.Means]
  | .call callee arguments keywords, sound => by
    rw [Piece.Sound] at sound
    obtain ⟨plain, soundArguments, soundKeywords⟩ := sound
    obtain ⟨sources, values, written, positional, means⟩ :=
      Piece.laidAll unit arguments soundArguments
    obtain ⟨entries, named, written', keyed, means'⟩ :=
      Piece.laidNamed unit keywords soundKeywords
    refine ⟨_, callee.applied values named, ?_, callee.laid_call plain positional keyed unit, ?_⟩
    · rw [Piece.source, written, written']
      rfl
    · rw [Piece.Means]
      exact ⟨values, named, rfl, means, means'⟩

theorem Piece.laidAll (unit : Nat) : ∀ pieces : List Piece, Piece.SoundAll pieces →
    ∃ sources values, Piece.sourceAll (spaces unit) pieces = .ok sources ∧
      List.Forall₂ (Laid .or) sources values ∧ Piece.MeansAll pieces values
  | [], _ => ⟨[], [], by rw [Piece.sourceAll], .nil, by rw [Piece.MeansAll]; trivial⟩
  | piece :: rest, sound => by
    rw [Piece.SoundAll] at sound
    obtain ⟨source, code, written, laid, means⟩ := Piece.laid unit piece sound.1
    obtain ⟨sources, values, written', laids, means'⟩ := Piece.laidAll unit rest sound.2
    refine ⟨source :: sources, code :: values, ?_, .cons laid laids, ?_⟩
    · rw [Piece.sourceAll, written, written']
      rfl
    · rw [Piece.MeansAll]
      exact ⟨means, means'⟩

theorem Piece.laidNamed (unit : Nat) : ∀ pieces : List (Text × Piece), Piece.SoundNamed pieces →
    ∃ entries keywords, Piece.sourceNamed (spaces unit) pieces = .ok entries ∧
      List.Forall₂ LaidKeyword entries keywords ∧ Piece.MeansNamed pieces keywords
  | [], _ => ⟨[], [], by rw [Piece.sourceNamed], .nil, by rw [Piece.MeansNamed]; trivial⟩
  | (name, piece) :: rest, sound => by
    rw [Piece.SoundNamed] at sound
    obtain ⟨plain, sound, others⟩ := sound
    obtain ⟨source, code, written, laid, means⟩ := Piece.laid unit piece sound
    obtain ⟨entries, keywords, written', laids, means'⟩ := Piece.laidNamed unit rest others
    refine ⟨(name, source) :: entries, ⟨some name, code⟩ :: keywords, ?_,
      .cons ⟨plain, rfl, laid⟩ laids, ?_⟩
    · rw [Piece.sourceNamed, written, written']
      rfl
    · rw [Piece.MeansNamed]
      exact ⟨rfl, means, means'⟩

end

end Pieces

/-! ## Assignments are read back -/

theorem repeated_spaces (depth width : Nat) :
    Text.repeated depth (spaces width) = spaces (depth * width) :=
  flatten_replicate_replicate

variable {target source : Text}

/-- Writing and trimming the lines of an assignment puts the margin of its depth before each of
them. -/
theorem assignedText_eq (one : target.OneLine) (firm : source.Firm) (width depth : Nat) :
    assignedText (spaces width) depth target source = spaces (depth * width) ++
      (spaces (depth * width)).spread (target ++ " = " ++ source) := by
  have whole : Text.Firm (target ++ " = " ++ source) := firm.indent (one.append (by decide))
  rw [assignedText, Statement.render, Statement.lines, assignmentLines, map_map, map_map]
  refine whole.unlines_map fun line solid => ?_
  have written : Line.write (spaces width) ⟨depth, line⟩ = spaces (depth * width) ++ line := by
    rw [Line.write, if_neg (by simp [solid.ne_nil]), repeated_spaces]
  show (Line.write (spaces width) ⟨depth, line⟩).trimEnd = _
  rw [written, (solid.append (oneLine_spaces _)).trimEnd]

open Target in
theorem Target.Spans.assigned {tokens : List Token} (plain : PlainName target)
    (spans : Spans source tokens) :
    Spans (target ++ " = " ++ source) (.name target :: .op "=" :: tokens) := by
  obtain ⟨one, chars, same, opens, lexed⟩ := named_of_plainName plain
  obtain ⟨mark, shape, closed, marks⟩ : Between (" " ++ "=" ++ " ") (.op "=") :=
    between_operator "=" (by decide) (by decide) (fun _ => rfl) fun _ => rfl
  have leading := lexed.append marks.lexes fun _ _ =>
    endsWord_of_closes (closes_append marks.some closed)
  have head : target ++ " = " = Text.ofChars (chars ++ mark) := by
    rw [ofChars_append, ← same, ← shape]
    rfl
  rw [head]
  exact spans.lead (head ▸ one.append (by decide)) (opensOperand_append opens) leading
    fun _ _ _ _ _ => rfl

theorem dropWhile_spaces {chars : List Char} (opens : Target.opensOperand chars = true)
    (width : Nat) :
    (spaces width ++ Text.ofChars chars).dropWhile (· = .scalar ' ') = Text.ofChars chars := by
  cases chars with
  | nil => cases opens
  | cons c rest =>
    have visible : c ≠ ' ' := by
      rintro rfl
      exact absurd (show Target.opensToken ' ' = true from opens) (by decide)
    rw [spaces, dropWhile_append_of_pos fun _ member => decide_eq_true (eq_of_mem_replicate member)]
    exact dropWhile_cons_of_neg (by simpa using visible)

/-- An assignment of laid out code is read back, wherever it stands. -/
theorem readAssignment_assignedText {code : Code} (plain : PlainName target)
    (laid : Laid .or source code) (width depth : Nat) :
    readAssignment (assignedText (spaces width) depth target source) = some (target, code) := by
  obtain ⟨tokens, spans, read⟩ := laid
  obtain ⟨chars, same, opens, lexed⟩ := (spans.assigned plain).reads (depth * width)
  have few := lexed.length_le
  have expression : Target.readExpression (40 * (chars.length + 1)) (tokens ++ []) =
      some (code, []) := read.expression (by simp only [length_cons] at few; omega)
        Nat.zero_lt_one
  rw [append_nil] at expression
  rw [assignedText_eq (Target.named_of_plainName plain).one spans.firm, same, readAssignment,
    dropWhile_spaces opens, Target.toChars?_ofChars]
  simp [lexed.tokenize opens, Target.readTop, expression, Target.atOp]

/-- **Literals survive every layer of layout.**  The literal of a value that a document has is a
sound piece, unless a number in it is not finite or a text holds a surrogate.  A sound piece has a
source; assigned to a name and written at any depth, it is read back as an assignment of code that
the piece stands for, so that every literal in it has exactly its value. -/
theorem literals_survive_layout :
    (∀ {document : Text} {value : Json}, Json.read document = .ok value →
      value.Everywhere Json.Plain → (Piece.literal value).Sound) ∧
    ∀ {target : Text} {piece : Piece}, PlainName target → piece.Sound → ∀ width depth : Nat,
      ∃ source code, piece.source (spaces width) = .ok source ∧
        readAssignment (assignedText (spaces width) depth target source) = some (target, code) ∧
        piece.Means code := by
  constructor
  · intro document value read plain
    rw [Piece.Sound]
    exact ⟨Json.everywhere_held_of_read read, plain⟩
  · intro target piece plain sound width depth
    obtain ⟨source, code, written, laid, means⟩ := piece.laid width sound
    exact ⟨source, code, written, readAssignment_assignedText plain laid width depth, means⟩

/-- A text that ends in white space and holds line breaks and quotation marks, and values that are
equal as numbers. -/
def greeting : Json :=
  .obj [("text", .str "say \"hi\" \\ \n\u2028\t "),
    ("alike", .arr [.int 1, .float (.ofDecimal false 10 (-1)), .bool true, .int (-1)]),
    ("empty", .arr [.arr [], .obj [], .null])]

/-- A call of which the value is an argument, next to a call that is awaited. -/
def greeter : Piece :=
  .call ⟨false, "Agent", []⟩ [.code "client" (.name "client")]
    [("greeting", .shifted (.literal greeting)),
      ("tool", .call ⟨true, "hosted", ["tools", "find"]⟩ [.literal (.str " ")] [])]

/-- The value is read back behind two units of four spaces. -/
theorem greeter_survives_layout : PlainName "agent" ∧ greeter.Sound ∧
    ∃ source code, greeter.source (spaces 4) = .ok source ∧
      readAssignment (assignedText (spaces 4) 2 "agent" source) = some (↑"agent", code) ∧
      greeter.Means code := by
  have plain : PlainName "agent" := by decide +kernel
  have sound : greeter.Sound := by
    have client : Writes .or "client" (.name "client") :=
      (Target.writes_name (by decide +kernel)).whole
    simp only [greeter, Piece.Sound, Piece.SoundAll, Piece.SoundNamed, and_true]
    exact ⟨by decide +kernel, ⟨client, Target.ends_of_visible (by decide) (by decide)⟩,
      ⟨by decide +kernel, by decide +kernel, by decide +kernel⟩, by decide +kernel,
      by decide +kernel, by decide +kernel, by decide +kernel⟩
  exact ⟨plain, sound, literals_survive_layout.2 plain sound 4 2⟩

end AgentFlow
