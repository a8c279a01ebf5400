import AgentFlow.Layout.Literal
import AgentFlow.Proofs.Target.Writing
import AgentFlow.Proofs.Text.Lines

/-!
# Code laid out over lines

A text spans tokens when it is read as them whatever margin stands before its further lines, and
none of its lines is empty or ends in white space.  What holds of items holds of the brackets around
them, so a text can be put into another one any number of times.
-/

namespace AgentFlow

open List
open Text (spread_of_oneLine spread_append spread_break ofChars spread join)

def spaces (width : Nat) : Text := List.replicate width ' '

theorem oneLine_spaces (width : Nat) : (spaces width).OneLine := by
  intro member
  cases eq_of_mem_replicate member

theorem spaces_append (width more : Nat) : spaces width ++ spaces more = spaces (width + more) :=
  replicate_append_replicate ..

/-- Indenting the further lines of a firm text puts the unit after every line break. -/
theorem indentTail_eq_spread {unit t : Text} (firm : t.Firm) :
    indentTail unit t = unit.spread t := by
  cases firm with
  | line solid =>
    rw [indentTail, Text.lines_of_oneLine solid.one, spread_of_oneLine solid.one]
    rfl
  | @more line rest solid firm =>
    have further : Text.unlines (rest.lines.map fun line =>
        if line.isEmpty then line else unit ++ line) = unit ++ unit.spread rest :=
      firm.unlines_map fun line solid => if_neg (by simp [solid.ne_nil])
    rw [indentTail, Text.lines_break solid.one, spread_append, spread_break,
      spread_of_oneLine solid.one, ← further]
    exact Text.unlines_cons (by simp [Text.lines_ne_nil])

namespace Target

open AgentFlow.Expr (Binding)

variable {follows further : List Char → Bool} {least : Nat} {text other : Text}
  {tokens others : List Token}

/-! ## Texts that the lexer reads -/

/-- A text of characters that the lexer reads as tokens. -/
def Lexed (follows : List Char → Bool) (least : Nat) (text : Text) (tokens : List Token) : Prop :=
  ∃ chars, text = ofChars chars ∧ Lexes follows least chars tokens

theorem Lexed.append (first : Lexed follows least text tokens)
    (second : Lexed further least other others)
    (fits : ∀ chars left, other = ofChars chars → further left = true →
      follows (chars ++ left) = true) :
    Lexed further least (text ++ other) (tokens ++ others) := by
  obtain ⟨chars, rfl, lexed⟩ := first
  obtain ⟨more, rfl, lexed'⟩ := second
  exact ⟨chars ++ more, (ofChars_append ..).symm,
    lexed.append lexed' fun left => fits more left rfl⟩

theorem Lexed.followed {c : Char} (first : Lexed follows least text tokens)
    (second : Lexed further least (.scalar c :: other) others)
    (fits : ∀ rest, follows (c :: rest) = true) :
    Lexed further least (text ++ .scalar c :: other) (tokens ++ others) := by
  refine first.append second fun chars left same _ => ?_
  cases chars with
  | nil => cases same
  | cons d rest =>
    obtain ⟨rfl, -⟩ : c = d ∧ _ := by simpa [ofChars] using same
    exact fits (rest ++ left)

theorem Lexed.after (second : Lexed further least other others)
    (first : Lexed anything least text tokens) :
    Lexed further least (text ++ other) (tokens ++ others) :=
  first.append second fun _ _ _ _ => rfl

/-! ## Texts of several lines -/

/-- A text of firm lines that is read as tokens, whatever margin its further lines have. -/
structure Spans (text : Text) (tokens : List Token) : Prop where
  firm : text.Firm
  reads : ∀ width, ∃ chars, (spaces width).spread text = ofChars chars ∧
    opensOperand chars = true ∧ Lexes closes 0 chars tokens

theorem oneLine_of_fitsLine {chars : List Char} (unbroken : ∀ c ∈ chars, fitsLine c = true) :
    (ofChars chars).OneLine := by
  intro member
  obtain ⟨c, inside, same⟩ := mem_map.1 member
  cases same
  exact absurd (unbroken _ inside) (by decide)

namespace Spans

theorem of_spells {chars : List Char} (spelled : Spells chars tokens)
    (ends : ∃ front last, ofChars chars = front ++ [last] ∧ last.isBlank = false) :
    Spans (ofChars chars) tokens where
  firm := .line ⟨oneLine_of_fitsLine spelled.unbroken, ends⟩
  reads _ := ⟨chars, spread_of_oneLine (oneLine_of_fitsLine spelled.unbroken),
    spelled.opens, spelled.lexes⟩

theorem indentTail (spans : Spans text tokens) (unit : Nat) :
    Spans (indentTail (spaces unit) text) tokens := by
  rw [indentTail_eq_spread spans.firm]
  refine ⟨spans.firm.spread (oneLine_spaces unit), fun width => ?_⟩
  rw [Text.spread_spread (oneLine_spaces unit), spaces_append]
  exact spans.reads (width + unit)

end Spans

/-! ## Items -/

theorem lexed_spaces (width : Nat) : Lexed anything least (spaces width) [] :=
  ⟨List.replicate width ' ', map_replicate.symm,
    (lexes_gaps fun _ member => eq_of_mem_replicate member).deepen⟩

/-- A line break inside brackets, and the margin of the next line. -/
theorem lexed_break (width : Nat) : Lexed anything 1 (.scalar '\n' :: spaces width) [] :=
  ⟨'\n' :: List.replicate width ' ', by simp [ofChars, spaces],
    lexes_break fun _ member => eq_of_mem_replicate member⟩

/-- The lines of an item: the item behind a unit of indentation. -/
def itemLines (unit : Nat) (source : Text) : Text :=
  spaces unit ++ indentTail (spaces unit) source

theorem itemLines_append {head source : Text} (one : head.OneLine) (firm : source.Firm)
    (unit : Nat) :
    itemLines unit (head ++ source) = spaces unit ++ head ++ indentTail (spaces unit) source := by
  rw [itemLines, indentTail_eq_spread (firm.indent one), spread_append,
    spread_of_oneLine one, ← indentTail_eq_spread firm, append_assoc]

variable {texts : List Text} {pieces : List (List Token)}

theorem Spans.item (spans : Spans text tokens) (unit width : Nat) :
    Lexed closes 1 ((spaces width).spread (itemLines unit text)) tokens := by
  obtain ⟨chars, same, -, lexed⟩ := (spans.indentTail unit).reads width
  rw [itemLines, spread_append, spread_of_oneLine (oneLine_spaces unit), same]
  exact Lexed.after ⟨chars, rfl, lexed.deepen⟩ (lexed_spaces unit)

theorem spread_separator (width : Nat) :
    (spaces width).spread ",\n" = .scalar ',' :: .scalar '\n' :: spaces width := by
  have shape : (",\n" : Text) = [.scalar ','] ++ [.scalar '\n'] := rfl
  rw [shape, spread_append, spread_break, spread_of_oneLine (by decide)]
  simp [spread]

theorem lexed_items (spanned : List.Forall₂ Spans texts pieces) (some : texts ≠ [])
    (unit width : Nat) :
    Lexed closes 1 ((spaces width).spread (join ",\n" (texts.map (itemLines unit))))
      (separated pieces) := by
  induction spanned with
  | nil => exact absurd rfl some
  | cons head tail ih =>
    cases tail with
    | nil => exact head.item unit width
    | cons next others =>
      have comma : Lexed anything 1 [.scalar ','] [.op ","] := ⟨[','], rfl, lexes_comma.deepen⟩
      have further := (Lexed.after (ih (by simp)) (lexed_break width)).after comma
      have whole := (head.item unit width).followed further fun _ => rfl
      rw [map_cons, map_cons, join, spread_append, spread_append, spread_separator, separated]
      simpa using whole

theorem firm_items (firm : ∀ text ∈ texts, text.Firm) (some : texts ≠ []) (unit : Nat) :
    (join ",\n" (texts.map (itemLines unit))).Firm := by
  induction texts with
  | nil => exact absurd rfl some
  | cons text rest ih =>
    obtain ⟨head, tail⟩ := forall_mem_cons.1 firm
    have item : (itemLines unit text).Firm := by
      rw [itemLines, indentTail_eq_spread head]
      exact (head.spread (oneLine_spaces unit)).indent (oneLine_spaces unit)
    cases rest with
    | nil => exact item
    | cons next others =>
      have comma : Text.Firm [.scalar ','] := .line ⟨by decide, [], .scalar ',', rfl, by decide⟩
      have whole := (item.append comma).lineBreak (ih tail (by simp))
      rw [append_assoc] at whole
      rw [map_cons, map_cons, join, append_assoc]
      exact whole

theorem spans_enclosed (bracket : Bracket) (spanned : List.Forall₂ Spans texts pieces)
    (some : texts ≠ []) (unit : Nat) :
    Spans (enclosed [.scalar bracket.first] [.scalar bracket.last] (texts.map (itemLines unit)))
      (bracket.opening :: (separated pieces ++ [bracket.closing])) := by
  have firm : ∀ text ∈ texts, text.Firm :=
    ((forall₂_and_left texts pieces).1 (spanned.imp fun _ _ spans => ⟨spans.firm, spans⟩)).1
  generalize items : join ",\n" (texts.map (itemLines unit)) = joined
  have shape : enclosed [.scalar bracket.first] [.scalar bracket.last]
      (texts.map (itemLines unit)) =
        ([.scalar bracket.first] ++ .scalar '\n' :: joined) ++ .scalar '\n' ::
          [.scalar bracket.last] := by
    rw [← items, enclosed, append_assoc]
    rfl
  have first : Text.Solid [.scalar bracket.first] := by
    cases bracket <;> exact ⟨by decide, [], _, rfl, by decide⟩
  have last : Text.Solid [.scalar bracket.last] := by
    cases bracket <;> exact ⟨by decide, [], _, rfl, by decide⟩
  rw [shape]
  refine ⟨((Text.Firm.line first).lineBreak (items ▸ firm_items firm some unit)).lineBreak
    (.line last), fun width => ?_⟩
  obtain ⟨chars, same, lexed⟩ :=
    ((lexed_items spanned some unit width).followed (lexed_break width) fun _ => rfl).after
      (lexed_break width)
  rw [items] at same
  refine ⟨bracket.first :: (chars ++ [bracket.last]), ?_, bracket.opens_first, ?_⟩
  · rw [spread_append, spread_append, spread_break, spread_break,
      spread_of_oneLine first.one, spread_of_oneLine last.one]
    have whole := congrArg (fun inner => [CodePoint.scalar bracket.first] ++ inner ++
      [.scalar bracket.last]) same
    simpa [ofChars] using whole
  · simpa using (lexed.bracketed bracket fun _ => rfl).restrict

/-! ## Texts that are read as code -/

/-- A text of one or more lines that spans tokens which hold together at a binding and are read as a
piece of code. -/
def Laid (binding : Binding) (text : Text) (code : Code) : Prop :=
  ∃ tokens, Spans text tokens ∧ Reads binding tokens code

variable {binding : Binding} {code : Code}

theorem Writes.oneLine (written : Writes binding text code) : text.OneLine := by
  obtain ⟨chars, tokens, rfl, spelled, -⟩ := written
  exact oneLine_of_fitsLine spelled.unbroken

namespace Laid

theorem of_writes (written : Writes binding text code)
    (ends : ∃ front last, text = front ++ [last] ∧ last.isBlank = false) :
    Laid binding text code := by
  obtain ⟨chars, tokens, rfl, spelled, read⟩ := written
  exact ⟨tokens, .of_spells spelled ends, read⟩

theorem whole (laid : Laid binding text code) : Laid .or text code := by
  obtain ⟨tokens, spans, read⟩ := laid
  exact ⟨tokens, spans, read.loosen (by cases binding <;> decide)⟩

theorem indentTail (laid : Laid binding text code) (unit : Nat) :
    Laid binding (indentTail (spaces unit) text) code := by
  obtain ⟨tokens, spans, read⟩ := laid
  exact ⟨tokens, spans.indentTail unit, read⟩

end Laid

theorem laid_list {values : List Code} (laid : List.Forall₂ (Laid .or) texts values)
    (some : texts ≠ []) (unit : Nat) :
    Laid .atom (enclosed "[" "]" (texts.map (itemLines unit))) (.list values) := by
  obtain ⟨pieces, spanned, read⟩ := exists_middle laid
  exact ⟨_, spans_enclosed .square spanned some unit, reads_list read⟩

theorem Spans.lead {chars : List Char} {leading : List Token} (spans : Spans text tokens)
    (one : (ofChars chars).OneLine) (opens : opensOperand chars = true)
    (lexed : Lexes follows 0 chars leading)
    (fits : ∀ width more left, (spaces width).spread text = ofChars more →
      opensOperand more = true → follows (more ++ left) = true) :
    Spans (ofChars chars ++ text) (leading ++ tokens) where
  firm := spans.firm.indent one
  reads width := by
    obtain ⟨more, same, opens', lexed'⟩ := spans.reads width
    refine ⟨chars ++ more, ?_, opensOperand_append opens,
      lexed.append lexed' fun left _ => fits width more left same opens'⟩
    rw [spread_append, spread_of_oneLine one, same, ofChars_append]

/-! ## Entries of dictionaries -/

/-- A text of one or more lines that spans a key and a value with a colon between them. -/
def LaidEntry (text : Text) (entry : Option Code × Code) : Prop :=
  ∃ tokens, Spans text tokens ∧ ReadsEntry tokens entry

theorem laid_entry {key : Text} (plain : ∀ point ∈ key, point.isSurrogate = false)
    (value : Laid .or text code) :
    LaidEntry (key.doubleQuoted ++ ": " ++ text) (some (.constant (.str key)), code) := by
  obtain ⟨chars, keyTokens, same, spelled, keyRead⟩ := writes_quoted plain
  obtain ⟨tokens, spans, read⟩ := value
  obtain ⟨mark, shape, closed, marks⟩ := between_punctuation (c := ':') (.inr rfl)
  have lexed : Lexes anything 0 (chars ++ mark) (keyTokens ++ [.op ":"]) :=
    spelled.lexes.append marks.lexes fun _ _ => closes_append marks.some closed
  have head : key.doubleQuoted ++ ": " = ofChars (chars ++ mark) := by
    rw [ofChars_append, ← same, ← shape]
    rfl
  have one : (ofChars (chars ++ mark)).OneLine :=
    oneLine_of_fitsLine (forall_mem_append.2 ⟨spelled.unbroken, marks.unbroken⟩)
  have whole := spans.lead one (opensOperand_append spelled.opens) lexed fun _ _ _ _ _ => rfl
  rw [← head] at whole
  refine ⟨_, whole, ?_⟩
  rw [append_assoc]
  exact .intro (keyRead.loosen (by decide)) nofun read

theorem laid_dict {entries : List (Option Code × Code)}
    (laid : List.Forall₂ LaidEntry texts entries) (some : texts ≠ []) (unit : Nat) :
    Laid .atom (enclosed "\x7b" "\x7d" (texts.map (itemLines unit))) (.dict entries) := by
  obtain ⟨pieces, spanned, read⟩ := exists_middle laid
  exact ⟨_, spans_enclosed .curly spanned some unit, reads_dict read⟩

/-! ## Calls -/

/-- A text on one line that is read as tokens before anything that ends a word. -/
structure Named (text : Text) (tokens : List Token) : Prop where
  one : text.OneLine
  lexed : ∃ chars, text = ofChars chars ∧ opensOperand chars = true ∧
    Lexes endsWord 0 chars tokens

theorem named_of_plainName {name : Text} (plain : PlainName name) : Named name [.name name] := by
  obtain ⟨c, rest, same, starts, fits, lexed⟩ :=
    lexes_identifier plain.identifier plain.ascii plain.free
  exact ⟨same ▸ oneLine_of_fitsLine fits, c :: rest, same, opens_of_startsName starts, lexed⟩

theorem Named.field (named : Named text tokens) {field : Text} (plain : PlainName field) :
    Named (text ++ "." ++ field) (tokens ++ [.op ".", .name field]) := by
  obtain ⟨c, rest, same, starts, fits, lexed⟩ :=
    lexes_identifier plain.identifier plain.ascii plain.free
  obtain ⟨chars, rfl, opens, first⟩ := named.lexed
  have second := lexes_point.append lexed fun _ _ => starts
  refine ⟨?_, _, ?_, opensOperand_append opens, first.append second fun _ _ => rfl⟩
  · exact (named.one.append (by decide)).append (same ▸ oneLine_of_fitsLine fits)
  · rw [same, ofChars_append, ofChars_append, append_assoc]
    rfl

/-- What follows the fields of what is named are further fields. -/
theorem named_path {code : Code} {fields : List Text} (named : Named text tokens)
    (read : Reads .access tokens code) (plain : ∀ field ∈ fields, PlainName field) :
    ∃ tokens, Named (fields.foldl (fun text field => text ++ "." ++ field) text) tokens ∧
      Reads .access tokens (fields.foldl .attr code) := by
  induction fields generalizing text tokens code with
  | nil => exact ⟨tokens, named, read⟩
  | cons field rest ih =>
    obtain ⟨first, others⟩ := forall_mem_cons.1 plain
    exact ih (named.field first) (reads_field read field) others

theorem Named.before {rest : Text} (named : Named text tokens)
    (spans : Spans (.scalar '(' :: rest) others) :
    Spans (text ++ .scalar '(' :: rest) (tokens ++ others) := by
  obtain ⟨chars, rfl, opens, lexed⟩ := named.lexed
  refine spans.lead named.one opens lexed fun width more left same _ => ?_
  cases more with
  | nil => cases same
  | cons c more =>
    obtain ⟨rfl, -⟩ : '(' = c ∧ _ := by simpa [spread, ofChars] using same
    rfl

/-- An argument with a name: the name can be written, and the source is laid out for the value. -/
structure LaidKeyword (entry : Text × Text) (keyword : Keyword Code) : Prop where
  plain : PlainName entry.1
  name : keyword.name = some entry.1
  laid : Laid .or entry.2 keyword.value

def keywordSource (entry : Text × Text) : Text := entry.1 ++ "=" ++ entry.2

namespace LaidKeyword

variable {entry : Text × Text} {keyword : Keyword Code}

theorem firm (laid : LaidKeyword entry keyword) : entry.2.Firm := by
  obtain ⟨tokens, spans, -⟩ := laid.laid
  exact spans.firm

theorem spans (laid : LaidKeyword entry keyword) :
    ∃ tokens, Spans (keywordSource entry) tokens ∧ ReadsKeyword tokens keyword := by
  obtain ⟨tokens, spans, read⟩ := laid.laid
  obtain ⟨one, chars, same, opens, lexed⟩ := named_of_plainName laid.plain
  obtain ⟨name, value⟩ := keyword
  obtain rfl : name = some entry.1 := laid.name
  have head : entry.1 ++ "=" = ofChars (chars ++ ['=']) := by
    rw [ofChars_append, ← same]
    rfl
  have whole := spans.lead (head ▸ one.append (by decide)) (opensOperand_append opens)
    (lexed.append lexes_equals fun _ _ => rfl) fun _ _ _ _ opens => opensOperand_append opens
  rw [← head] at whole
  exact ⟨_, whole, .intro read⟩

theorem layout (laid : LaidKeyword entry keyword) (unit : Nat) :
    (Argument.named entry.1 entry.2).layout (spaces unit) =
      itemLines unit (keywordSource entry) := by
  obtain ⟨key, source⟩ := entry
  have one : Text.OneLine (key ++ "=") := (named_of_plainName laid.plain).one.append (by decide)
  rw [keywordSource, itemLines_append one laid.firm]
  cases key with
  | nil => cases laid.plain.identifier
  | cons c rest => simp [Argument.layout, Argument.named]

end LaidKeyword

/-- The arguments of a call, those with names after the others. -/
def callArguments (sources : List Text) (entries : List (Text × Text)) : List Argument :=
  sources.map .positional ++ entries.map fun entry => .named entry.1 entry.2

section Calls

variable {function : Text} {sources : List Text} {values : List Code}
  {entries : List (Text × Text)} {keywords : List (Keyword Code)}

theorem layout_callArguments (keyed : List.Forall₂ LaidKeyword entries keywords)
    (sources : List Text) (unit : Nat) :
    (callArguments sources entries).map (Argument.layout (spaces unit)) =
      (sources ++ entries.map keywordSource).map (itemLines unit) := by
  have named : (entries.map fun entry => Argument.named entry.1 entry.2).map
      (Argument.layout (spaces unit)) = (entries.map keywordSource).map (itemLines unit) := by
    induction keyed with
    | nil => rfl
    | cons head _ ih => simp only [map_cons, head.layout unit, ih]
  rw [callArguments, map_append, map_append, named, map_map]
  rfl

theorem laid_call (named : Named function tokens) (read : Reads .access tokens code)
    (positional : List.Forall₂ (Laid .or) sources values)
    (keyed : List.Forall₂ LaidKeyword entries keywords) (unit : Nat) :
    Laid .access (layoutCall function (callArguments sources entries) (spaces unit))
      (.call code values keywords) := by
  obtain ⟨pieces, spanned, reads⟩ := exists_middle positional
  obtain ⟨namedPieces, spanned', reads'⟩ :
      ∃ middle, List.Forall₂ Spans (entries.map keywordSource) middle ∧
        List.Forall₂ ReadsKeyword middle keywords :=
    exists_middle (forall₂_map_left_iff.2 (keyed.imp fun _ _ laid => laid.spans))
  have all := rel_append spanned spanned'
  refine ⟨_, ?_, reads_call read reads reads'⟩
  have lines := layout_callArguments keyed sources unit
  by_cases none : sources ++ entries.map keywordSource = []
  · obtain ⟨rfl, empty⟩ := append_eq_nil_iff.1 none
    obtain rfl := map_eq_nil_iff.1 empty
    cases spanned
    cases spanned'
    exact named.before (.of_spells (.empty .round) ⟨[.scalar '('], .scalar ')', rfl, by decide⟩)
  · have some : (callArguments sources entries).isEmpty = false := by
      rw [isEmpty_eq_false_iff]
      intro empty
      rw [empty] at lines
      exact none (map_eq_nil_iff.1 lines.symm)
    have shape : layoutCall function (callArguments sources entries) (spaces unit) =
        function ++
          enclosed "(" ")" ((sources ++ entries.map keywordSource).map (itemLines unit)) := by
      simp only [layoutCall, some, lines, enclosed, append_assoc, Bool.false_eq_true, if_false]
    rw [shape]
    exact named.before (spans_enclosed .round all none unit)

end Calls

theorem Laid.awaited (laid : Laid .access text code) :
    Laid .unary ("await " ++ text) (.await code) := by
  obtain ⟨tokens, spans, read⟩ := laid
  have mark : Marks ([] ++ ('a' :: ['w', 'a', 'i', 't'] ++ [' ']))
      (.keyword (String.ofList ['a', 'w', 'a', 'i', 't'])) :=
    marks_keyword (by decide) (by decide) (by decide) (by decide) (by decide)
  exact ⟨_, spans.lead (oneLine_of_fitsLine mark.unbroken) rfl mark.lexes fun _ _ _ _ _ => rfl,
    reads_await read⟩

end Target

end AgentFlow
