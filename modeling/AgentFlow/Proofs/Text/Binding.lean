import AgentFlow.Expr.Scope
import AgentFlow.Proofs.Text.Lines
import Mathlib.Data.List.TakeWhile

/-!
# Names that lines of code bind

Whether a line of generated code binds a name can be told from its first word: a reserved word, or
the name that is assigned.  The functions and types that generated code takes for granted are
watched together with these words.  A text is quiet when no line of it starts with one of them.
-/

namespace AgentFlow

open List

/-- The functions and types that generated code uses without importing them: what the helper
functions of expressions are called, and what helpers, annotations and handlers use. -/
def builtinNames : List Text :=
  Text.dedup (Expr.helpers.map Prod.snd) ++
    (["any", "getattr", "isinstance", "bool", "list", "dict", "Exception"] : List Text)

namespace CodePoint

/-- Whether a code point can stand in a word of code: a plain one, or one beyond ASCII that is not
white space. -/
def isWord (c : CodePoint) : Bool := c.continuesPlainName || (0x80 ≤ c.toNat && !c.isBlank)

/-- Whether a code point is white space within a line. -/
def isGap (c : CodePoint) : Bool := c.isBlank && c ≠ '\n'

/-- Whether a code point stands neither in a word nor in a gap; a line break does not. -/
def isMark (c : CodePoint) : Bool := !c.isWord && !c.isGap

end CodePoint

namespace Text

/-! ## Binding -/

def leading (t : Text) : Text := t.takeWhile CodePoint.isWord

/-- What follows the word that a text starts with. -/
def following (t : Text) : Text := trimStart (t.dropWhile CodePoint.isWord)

/-- The words of a text, with empty ones where code points between words are neighbours. -/
def mentioned (t : Text) : List Text :=
  splitOn ' ' (t.map fun c => if c.isWord then c else ' ')

/-- The statement on a line, without the word that makes a function asynchronous. -/
def statement (line : Text) : Text := if line.leading = "async" then line.following else line

/-- Whether a line may bind a name: it defines it, imports it, renames something to it, or starts
with it. -/
def binds (line name : Text) : Bool :=
  let word := line.statement.leading
  let rest := line.statement.following
  if word ∈ (["def", "class", "for"] : List Text) then rest.leading = name
  else if word ∈ (["from", "import"] : List Text) then name ∈ rest.mentioned
  else if word ∈ (["except", "with"] : List Text) then
    ("as", name) ∈ rest.mentioned.zip rest.mentioned.tail
  else word = name

example : binds "async def len(x):" "len" = true ∧ binds "from a.b import c, len" "len" = true ∧
    binds "except Exception as e:" "e" = true ∧ binds "len: int = 3" "len" = true ∧
    binds "except Exception as e:" "Exception" = false ∧ binds "size = len(x)" "len" = false := by
  decide

/-- The first words of lines that may bind one of the names that generated code takes for granted.
-/
def watched : List Text :=
  (["async", "def", "class", "for", "from", "import", "except", "with"] : List Text) ++ builtinNames

variable {t line name rest margin word first second : Text} {c : CodePoint} {pieces : List Text}

theorem binds_of_leading (free : line.leading ∉ watched) (listed : name ∈ builtinNames) :
    line.binds name = false := by
  have other : ∀ word ∈ watched, line.leading ≠ word := fun word member same => free (same ▸ member)
  have statement : line.statement = line := if_neg (other _ (by decide))
  have differs : line.leading ≠ name := other name (mem_append_right _ listed)
  have apart {words : List Text} (some : words ⊆ watched) : line.leading ∉ words :=
    fun member => free (some member)
  unfold binds
  rw [statement]
  dsimp only
  rw [if_neg (apart (by decide)), if_neg (apart (by decide)), if_neg (apart (by decide))]
  exact decide_eq_false differs

/-! ## Words of a text -/

theorem isBlank_of_isWord (isWord : c.isWord = true) : c.isBlank = false := by
  rcases Bool.or_eq_true_iff.1 isWord with plain | beyond
  · refine Ranges.contains_of_apart 0x30 0x7A (by decide) ?_ ?_ <;>
      simp only [CodePoint.continuesPlainName, CodePoint.startsPlainName, CodePoint.isAsciiDigit,
        Bool.or_eq_true, Bool.and_eq_true, decide_eq_true_eq] at plain <;> omega
  · simpa using (Bool.and_eq_true_iff.1 beyond).2

theorem isGap_of_isWord (isWord : c.isWord = true) : c.isGap = false := by
  simp [CodePoint.isGap, isBlank_of_isWord isWord]

theorem isWord_of_isBlank (blank : c.isBlank = true) : c.isWord = false := by
  rw [← Bool.not_eq_true]
  intro isWord
  rw [isBlank_of_isWord isWord] at blank
  cases blank

theorem isWord_of_isGap (gap : c.isGap = true) : c.isWord = false :=
  isWord_of_isBlank (Bool.and_eq_true_iff.1 gap).1

/-- The words around a code point that stands in none are those before it and those after it. -/
theorem mentioned_append_cons (stop : c.isWord = false) (first rest : Text) :
    mentioned (first ++ c :: rest) = first.mentioned ++ rest.mentioned := by
  unfold mentioned
  rw [map_append, map_cons, if_neg (by simp [stop])]
  exact splitOn_append_cons ' ' _ _

theorem mentioned_word (words : ∀ c ∈ word, c.isWord = true) : word.mentioned = [word] := by
  have absent : (' ' : CodePoint) ∉ word := fun member => absurd (words _ member) (by decide)
  have same : word.map (fun c => if c.isWord then c else ' ') = word :=
    (map_congr_left fun c member => if_pos (words c member)).trans (map_id' word)
  obtain ⟨piece, pieces, whole, split⟩ := splitOn_append [] absent
  cases whole
  rw [mentioned, same]
  rwa [append_nil] at split

theorem mentioned_trimStart (t : Text) : t.trimStart.mentioned ⊆ t.mentioned := by
  induction t with
  | nil => exact List.Subset.refl _
  | cons c rest ih =>
    cases blank : c.isBlank with
    | false =>
      rw [trimStart, dropWhile_cons_of_neg (by simp [blank])]
      exact List.Subset.refl _
    | true =>
      have apart := mentioned_append_cons (isWord_of_isBlank blank) [] rest
      rw [nil_append] at apart
      rw [trimStart, dropWhile_cons_of_pos blank, apart]
      exact List.Subset.trans ih (subset_append_right _ _)

theorem of_mem_mentioned_join (listed : word ∈ mentioned (join ", " pieces)) :
    word = [] ∨ ∃ piece ∈ pieces, word ∈ piece.mentioned := by
  induction pieces with
  | nil => exact .inl (mem_singleton.1 listed)
  | cons piece rest ih =>
    cases rest with
    | nil => exact .inr ⟨piece, mem_cons_self, listed⟩
    | cons next others =>
      have apart : mentioned (join ", " (piece :: next :: others)) =
          piece.mentioned ++ ([] :: mentioned (join ", " (next :: others))) := by
        rw [join, append_assoc]
        show mentioned (piece ++ .scalar ',' :: ([] ++ .scalar ' ' :: _)) = _
        rw [mentioned_append_cons (by decide), mentioned_append_cons (by decide)]
        rfl
      rw [apart, mem_append, mem_cons] at listed
      rcases listed with own | empty | later
      · exact .inr ⟨piece, mem_cons_self, own⟩
      · exact .inl empty
      · rcases ih later with empty | ⟨found, among, inside⟩
        · exact .inl empty
        · exact .inr ⟨found, mem_cons_of_mem _ among, inside⟩

/-! ## Tame beginnings -/

/-- A text whose first line starts with no watched word, white space before it aside. -/
def Tame (t : Text) : Prop := leading (t.dropWhile CodePoint.isGap) ∉ watched

instance (t : Text) : Decidable t.Tame := inferInstanceAs (Decidable (_ ∉ watched))

/-- A text in which the first word is over and is not watched. -/
def opens (t : Text) : Bool :=
  let code : Text := t.dropWhile CodePoint.isGap
  leading code ∉ watched && code.any (!·.isWord)

/-- A text that is empty or starts with a mark. -/
def Stops (t : Text) : Prop := ∀ c ∈ t.head?, c.isMark = true

theorem leading_of_stop (stop : c.isWord = false) : leading (c :: rest) = [] := by
  simp [leading, stop]

theorem leading_append (all : ∀ c ∈ word, c.isWord = true) (rest : Text) :
    leading (word ++ rest) = word ++ rest.leading := takeWhile_append_of_pos all

/-- What stands after the first word does not matter for it. -/
theorem leading_append_of_any (ended : first.any (!·.isWord) = true) (second : Text) :
    leading (first ++ second) = first.leading := by
  induction first with
  | nil => cases ended
  | cons c rest ih =>
    unfold leading at ih ⊢
    cases isWord : c.isWord with
    | false => simp [isWord]
    | true => simpa [isWord] using ih (by simpa [isWord] using ended)

theorem statement_append (ended : first.any (!·.isWord) = true) (sync : first.leading ≠ "async")
    (second : Text) : statement (first ++ second) = first ++ second :=
  if_neg (by rwa [leading_append_of_any ended])

/-- A text that does not start with a word leaves the first word before it as it is. -/
theorem leading_append_of_head (stop : ∀ c ∈ second.head?, c.isWord = false) (first : Text) :
    leading (first ++ second) = first.leading := by
  cases second with
  | nil => rw [append_nil]
  | cons c rest =>
    unfold leading
    induction first with
    | nil => simp [stop c rfl]
    | cons d others ih => simp [takeWhile_cons, ih]

theorem Stops.head (stops : t.Stops) : ∀ c ∈ t.head?, c.isWord = false := fun c first => by
  simpa using (Bool.and_eq_true_iff.1 (stops c first)).1

theorem nil_notMem_watched : ([] : Text) ∉ watched := by decide

theorem tame_nil : Tame [] := nil_notMem_watched

theorem tame_cons_gap (gap : c.isGap = true) : Tame (c :: rest) ↔ Tame rest := by
  simp [Tame, gap]

theorem tame_margin (margins : ∀ c ∈ margin, c.isGap = true) : Tame (margin ++ t) ↔ Tame t := by
  rw [Tame, dropWhile_append_of_pos margins, Tame]

theorem tame_of_stops (stops : t.Stops) : Tame t := by
  cases t with
  | nil => exact tame_nil
  | cons c rest =>
    obtain ⟨stop, tight⟩ : c.isWord = false ∧ c.isGap = false := by
      simpa [CodePoint.isMark] using stops c rfl
    rw [Tame, dropWhile_cons_of_neg (by simp [tight]), leading_of_stop stop]
    exact nil_notMem_watched

theorem Tame.append (tame : first.Tame) (stops : second.Stops) : Tame (first ++ second) := by
  induction first with
  | nil => exact tame_of_stops stops
  | cons c rest ih =>
    cases gap : c.isGap with
    | true =>
      rw [tame_cons_gap gap] at tame
      exact (tame_cons_gap gap).2 (ih tame)
    | false =>
      unfold Tame at tame ⊢
      rw [dropWhile_cons_of_neg (by simp [gap])] at tame
      rw [cons_append, dropWhile_cons_of_neg (by simp [gap]), ← cons_append,
        leading_append_of_head stops.head]
      exact tame

theorem tame_of_append (stop : ∀ c ∈ second.head?, c.isWord = false)
    (tame : Tame (first ++ second)) : Tame first := by
  induction first with
  | nil => exact tame_nil
  | cons c others ih =>
    cases gap : c.isGap with
    | true =>
      rw [cons_append, tame_cons_gap gap] at tame
      exact (tame_cons_gap gap).2 (ih tame)
    | false =>
      unfold Tame at tame ⊢
      rw [cons_append, dropWhile_cons_of_neg (by simp [gap]), ← cons_append,
        leading_append_of_head stop] at tame
      rwa [dropWhile_cons_of_neg (by simp [gap])]

theorem tame_of_opens (opening : first.opens = true) (second : Text) : Tame (first ++ second) := by
  obtain ⟨free, ended⟩ : leading (first.dropWhile CodePoint.isGap) ∉ watched ∧
      (first.dropWhile CodePoint.isGap).any (!·.isWord) = true := by simpa [opens] using opening
  have some : (first.dropWhile CodePoint.isGap).isEmpty = false := by
    cases shape : first.dropWhile CodePoint.isGap with
    | nil =>
      rw [shape] at ended
      cases ended
    | cons c rest => rfl
  rw [Tame, dropWhile_append, some, if_neg (by simp), leading_append_of_any ended]
  exact free

/-- A tame line starts with no watched word where it stands. -/
theorem Tame.leading (tame : t.Tame) : t.leading ∉ watched := by
  cases t with
  | nil => exact nil_notMem_watched
  | cons c rest =>
    cases gap : c.isGap with
    | false =>
      unfold Tame at tame
      rwa [dropWhile_cons_of_neg (by simp [gap])] at tame
    | true =>
      rw [leading_of_stop (isWord_of_isGap gap)]
      exact nil_notMem_watched

theorem trimStart_of_oneLine (one : t.OneLine) : t.trimStart = t.dropWhile CodePoint.isGap := by
  induction t with
  | nil => rfl
  | cons c rest ih =>
    obtain ⟨differs, others⟩ : ('\n' : CodePoint) ≠ c ∧ OneLine rest := by
      simpa only [OneLine, mem_cons, not_or] using one
    have same : c.isGap = c.isBlank := by simp [CodePoint.isGap, differs.symm]
    rw [trimStart, dropWhile_cons, dropWhile_cons, same, ← ih others, trimStart]

/-- A tame line starts with no watched word where it is moved to the margin. -/
theorem Tame.trimStart (tame : t.Tame) (one : t.OneLine) : t.trimStart.leading ∉ watched := by
  rw [trimStart_of_oneLine one]
  exact tame

/-! ## Quiet texts -/

/-- A text in which no line but the first starts with a watched word. -/
def Serene : Text → Prop
  | [] => True
  | c :: rest => (c = '\n' → Tame rest) ∧ Serene rest

instance instDecidableSerene : (t : Text) → Decidable t.Serene
  | [] => .isTrue trivial
  | c :: rest =>
    have := instDecidableSerene rest
    inferInstanceAs (Decidable ((c = '\n' → Tame rest) ∧ Serene rest))

/-- A text in which no line starts with a watched word. -/
structure Quiet (t : Text) : Prop where
  tame : t.Tame
  serene : t.Serene

instance (t : Text) : Decidable t.Quiet :=
  decidable_of_iff (t.Tame ∧ t.Serene) ⟨fun both => ⟨both.1, both.2⟩, fun q => ⟨q.tame, q.serene⟩⟩

theorem serene_append_of_oneLine (one : first.OneLine) :
    Serene (first ++ second) ↔ Serene second := by
  induction first with
  | nil => rfl
  | cons c rest ih =>
    obtain ⟨differs, others⟩ : ('\n' : CodePoint) ≠ c ∧ OneLine rest := by
      simpa only [OneLine, mem_cons, not_or] using one
    rw [cons_append, Serene, ih others]
    exact and_iff_right fun same => absurd same.symm differs

theorem serene_of_oneLine (one : t.OneLine) : t.Serene := by
  rw [← append_nil t]
  exact (serene_append_of_oneLine one).2 trivial

theorem serene_break : Serene (.scalar '\n' :: rest) ↔ rest.Quiet :=
  ⟨fun both => ⟨both.1 rfl, both.2⟩, fun quiet => ⟨fun _ => quiet.tame, quiet.serene⟩⟩

theorem Serene.append (former : first.Serene) (stops : second.Stops) (latter : second.Serene) :
    Serene (first ++ second) := by
  induction first with
  | nil => exact latter
  | cons c rest ih => exact ⟨fun same => (former.1 same).append stops, ih former.2⟩

theorem serene_of_append (stop : ∀ c ∈ second.head?, c.isWord = false)
    (serene : Serene (first ++ second)) : Serene first := by
  induction first with
  | nil => trivial
  | cons c rest ih => exact ⟨fun same => tame_of_append stop (serene.1 same), ih serene.2⟩

namespace Quiet

theorem of_oneLine (tame : t.Tame) (one : t.OneLine) : t.Quiet := ⟨tame, serene_of_oneLine one⟩

theorem append (quiet : first.Quiet) (stops : second.Stops) (latter : second.Serene) :
    Quiet (first ++ second) := ⟨quiet.tame.append stops, quiet.serene.append stops latter⟩

/-- A first word that is over, on a line that may go on with more of them. -/
theorem of_opens (opening : first.opens = true) (one : first.OneLine) (latter : second.Serene) :
    Quiet (first ++ second) :=
  ⟨tame_of_opens opening second, (serene_append_of_oneLine one).2 latter⟩

theorem indented (quiet : t.Quiet) (margins : ∀ c ∈ margin, c.isGap = true) :
    Quiet (margin ++ t) := by
  have one : margin.OneLine := fun member => absurd (margins _ member) (by decide)
  exact ⟨(tame_margin margins).2 quiet.tame, (serene_append_of_oneLine one).2 quiet.serene⟩

end Quiet

/-! ## Lines of quiet texts -/

theorem oneLine_or_break (t : Text) :
    t.OneLine ∨ ∃ line rest : Text, line.OneLine ∧ t = line ++ .scalar '\n' :: rest := by
  by_cases one : t.OneLine
  · exact .inl one
  · obtain ⟨line, rest, shape, absent⟩ := eq_append_cons_of_mem (not_not.1 one)
    exact .inr ⟨line, rest, absent, shape⟩

theorem stops_break (rest : Text) : Stops (.scalar '\n' :: rest) := by
  rintro c ⟨⟩
  decide

theorem tame_break : Tame (first ++ .scalar '\n' :: rest) ↔ Tame first :=
  ⟨tame_of_append (stops_break rest).head, fun tame => tame.append (stops_break rest)⟩

/-- What holds of single lines, and of a text after a line if it holds of the text, holds of all
texts. -/
theorem line_induction {motive : Text → Prop} (line : ∀ t : Text, t.OneLine → motive t)
    (more : ∀ first rest : Text, first.OneLine → motive rest →
      motive (first ++ .scalar '\n' :: rest)) (t : Text) : motive t := by
  -- by the number of code points: what is left after the first line break is shorter
  induction size : t.length using Nat.strong_induction_on generalizing t with
  | _ size ih =>
    rcases oneLine_or_break t with one | ⟨first, rest, one, rfl⟩
    · exact line t one
    · exact more first rest one (ih rest.length (by simp [← size]; omega) rest rfl)

theorem oneLine_of_mem_lines (t : Text) : ∀ line ∈ t.lines, line.OneLine := by
  induction t using line_induction with
  | line t one => exact lines_of_oneLine one ▸ forall_mem_singleton.2 one
  | more first rest one ih => exact lines_break one rest ▸ forall_mem_cons.2 ⟨one, ih⟩

theorem Quiet.lines (quiet : t.Quiet) : ∀ line ∈ t.lines, line.Tame := by
  induction t using line_induction with
  | line t one => exact lines_of_oneLine one ▸ forall_mem_singleton.2 quiet.tame
  | more first rest one ih =>
    rw [lines_break one]
    refine forall_mem_cons.2 ⟨tame_break.1 quiet.tame, ih ?_⟩
    exact serene_break.1 ((serene_append_of_oneLine one).1 quiet.serene)

theorem quiet_unlines (each : ∀ piece ∈ pieces, piece.Tame ∧ piece.OneLine) :
    Quiet (unlines pieces) := by
  induction pieces with
  | nil => exact ⟨tame_nil, trivial⟩
  | cons piece rest ih =>
    obtain ⟨⟨tame, one⟩, others⟩ := forall_mem_cons.1 each
    cases rest with
    | nil => exact .of_oneLine tame one
    | cons next more =>
      rw [unlines_cons (by simp)]
      exact ⟨tame_break.2 tame, (serene_append_of_oneLine one).2 (serene_break.2 (ih others))⟩

theorem Quiet.trimEnd (quiet : t.Quiet) : t.trimEnd.Quiet := by
  have blank : ∀ c ∈ (t.reverse.takeWhile CodePoint.isBlank).reverse, c.isWord = false := by
    intro c member
    exact isWord_of_isBlank (mem_takeWhile_imp (mem_reverse.1 member))
  have whole : t.trimEnd ++ (t.reverse.takeWhile CodePoint.isBlank).reverse = t := by
    rw [Text.trimEnd, ← reverse_append, takeWhile_append_dropWhile, reverse_reverse]
  rw [← whole] at quiet
  have stop := fun c first => blank c (mem_of_mem_head? first)
  exact ⟨tame_of_append stop quiet.tame, serene_of_append stop quiet.serene⟩

end Text

end AgentFlow
