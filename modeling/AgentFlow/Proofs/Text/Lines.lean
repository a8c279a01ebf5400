import AgentFlow.Text.Basic
import Mathlib.Data.List.Basic

/-!
# Lines

A text is a line, or a line before a line break and more text.  A text is firm when none of its
lines is empty or ends in white space: trimming its lines then changes nothing, and indenting its
further lines puts the margin after every line break.
-/

namespace AgentFlow.Text

open List

/-! ## Single lines -/

/-- A text of one line. -/
def OneLine (t : Text) : Prop := ('\n' : CodePoint) ∉ t

instance (t : Text) : Decidable t.OneLine := inferInstanceAs (Decidable (_ ∉ t))

theorem OneLine.append {first second : Text} (one : first.OneLine) (other : second.OneLine) :
    OneLine (first ++ second) := fun member =>
  (mem_append.1 member).elim one other

theorem oneLine_ofNat (number : Nat) : (ofNat number).OneLine := by
  intro member
  obtain ⟨digit, listed, same⟩ := mem_map.1 member
  have isDigit := Nat.isDigit_of_mem_toDigits (b := 10) (by decide) (by decide) listed
  cases same
  exact absurd isDigit (by decide)

theorem splitOn_append {separator : CodePoint} (tail : Text) :
    ∀ {head : Text}, separator ∉ head →
      ∃ piece pieces, splitOn separator tail = piece :: pieces ∧
        splitOn separator (head ++ tail) = (head ++ piece) :: pieces
  | [], _ => by
    cases tail with
    | nil => exact ⟨[], [], rfl, rfl⟩
    | cons c rest =>
      rw [nil_append, splitOn]
      split
      · exact ⟨_, _, rfl, rfl⟩
      · split <;> exact ⟨_, _, rfl, rfl⟩
  | c :: rest, absent => by
    obtain ⟨differs, absent⟩ : separator ≠ c ∧ separator ∉ rest := by
      simpa only [mem_cons, not_or] using absent
    obtain ⟨piece, pieces, whole, split⟩ := splitOn_append tail absent
    refine ⟨piece, pieces, whole, ?_⟩
    rw [cons_append, splitOn, split]
    exact if_neg (Ne.symm differs)

theorem splitOn_append_cons (separator : CodePoint) (first rest : Text) :
    splitOn separator (first ++ separator :: rest) =
      splitOn separator first ++ splitOn separator rest := by
  induction first with
  | nil =>
    obtain ⟨piece, pieces, shape, -⟩ := splitOn_append rest (show separator ∉ [] from nofun)
    simp only [nil_append, splitOn, shape, if_true, cons_append]
  | cons c tail ih =>
    obtain ⟨piece, pieces, shape, -⟩ := splitOn_append tail (show separator ∉ [] from nofun)
    rw [cons_append, splitOn, splitOn, ih, shape, cons_append]
    dsimp only
    split <;> rfl

variable {t line rest margin unit : Text}

theorem lines_of_oneLine (one : t.OneLine) : t.lines = [t] := by
  obtain ⟨piece, pieces, whole, split⟩ := splitOn_append [] one
  cases whole
  rwa [append_nil] at split

theorem lines_break (one : line.OneLine) (rest : Text) :
    lines (line ++ .scalar '\n' :: rest) = line :: rest.lines := by
  obtain ⟨piece, pieces, whole, split⟩ := splitOn_append (.scalar '\n' :: rest) one
  obtain ⟨first, more, shape, -⟩ := splitOn_append rest (show OneLine [] from nofun)
  rw [splitOn, shape] at whole
  cases whole
  rw [lines, split, append_nil, lines, shape]

theorem lines_ne_nil (t : Text) : t.lines ≠ [] := by
  obtain ⟨piece, pieces, whole, -⟩ := splitOn_append t (show OneLine [] from nofun)
  simp [lines, whole]

theorem unlines_cons {pieces : List Text} (some : pieces ≠ []) :
    unlines (line :: pieces) = line ++ .scalar '\n' :: unlines pieces := by
  obtain ⟨next, rest, rfl⟩ := exists_cons_of_ne_nil some
  rw [unlines, join, append_assoc]
  rfl

/-! ## Margins after line breaks -/

/-- A text with a margin after every line break. -/
def spread (margin : Text) : Text → Text
  | [] => []
  | c :: rest => if c = '\n' then c :: (margin ++ spread margin rest) else c :: spread margin rest

theorem spread_append (margin first second : Text) :
    spread margin (first ++ second) = spread margin first ++ spread margin second := by
  induction first with
  | nil => rfl
  | cons c rest ih =>
    rw [cons_append, spread, spread, ih]
    split <;> simp

theorem spread_of_oneLine (one : t.OneLine) : spread margin t = t := by
  induction t with
  | nil => rfl
  | cons c rest ih =>
    obtain ⟨differs, others⟩ : ('\n' : CodePoint) ≠ c ∧ OneLine rest := by
      simpa only [OneLine, mem_cons, not_or] using one
    rw [spread, if_neg (Ne.symm differs), ih others]

theorem spread_break (margin rest : Text) :
    spread margin (.scalar '\n' :: rest) = .scalar '\n' :: (margin ++ spread margin rest) :=
  if_pos rfl

theorem spread_spread (one : unit.OneLine) (t : Text) :
    spread margin (spread unit t) = spread (margin ++ unit) t := by
  induction t with
  | nil => rfl
  | cons c rest ih =>
    by_cases newline : c = '\n'
    · subst newline
      rw [spread_break, spread_break, spread_break, spread_append, spread_of_oneLine one, ih,
        append_assoc]
    · simp only [spread, newline, if_false, ih]

/-! ## Firm texts -/

/-- A line that does not end in white space, and is not empty. -/
structure Solid (line : Text) : Prop where
  one : line.OneLine
  ends : ∃ front last, line = front ++ [last] ∧ last.isBlank = false

/-- A text of solid lines. -/
inductive Firm : Text → Prop where
  | line {line : Text} (solid : Solid line) : Firm line
  | more {line rest : Text} (solid : Solid line) (firm : Firm rest) :
      Firm (line ++ .scalar '\n' :: rest)

namespace Solid

theorem append (one : t.OneLine) (solid : Solid line) : Solid (t ++ line) := by
  obtain ⟨front, last, rfl, visible⟩ := solid.ends
  exact ⟨one.append solid.one, t ++ front, last, (append_assoc ..).symm, visible⟩

theorem ne_nil (solid : Solid line) : line ≠ [] := by
  obtain ⟨front, last, rfl, -⟩ := solid.ends
  simp

theorem trimEnd (solid : Solid line) : line.trimEnd = line := by
  obtain ⟨front, last, rfl, visible⟩ := solid.ends
  simp [Text.trimEnd, visible]

end Solid

namespace Firm

/-- The first line of a firm text goes on to the left. -/
theorem indent (one : t.OneLine) (firm : Firm rest) : Firm (t ++ rest) := by
  cases firm with
  | line solid => exact .line (solid.append one)
  | more solid firm =>
    rw [← append_assoc]
    exact .more (solid.append one) firm

theorem append (first : Firm t) (second : Firm rest) : Firm (t ++ rest) := by
  induction first with
  | line solid => exact second.indent solid.one
  | more solid _ ih =>
    rw [append_assoc, cons_append]
    exact .more solid ih

theorem lineBreak (first : Firm t) (second : Firm rest) : Firm (t ++ .scalar '\n' :: rest) := by
  induction first with
  | line solid => exact .more solid second
  | more solid _ ih =>
    rw [append_assoc, cons_append]
    exact .more solid ih

theorem spread (one : margin.OneLine) (firm : Firm t) : Firm (spread margin t) := by
  induction firm with
  | line solid =>
    rw [spread_of_oneLine solid.one]
    exact .line solid
  | more solid _ ih =>
    rw [spread_append, spread_break, spread_of_oneLine solid.one]
    exact .more solid (ih.indent one)

theorem unlines_map {write : Text → Text} (firm : Firm t)
    (writes : ∀ line, Solid line → write line = margin ++ line) :
    unlines (t.lines.map write) = margin ++ Text.spread margin t := by
  induction firm with
  | line solid =>
    rw [lines_of_oneLine solid.one, spread_of_oneLine solid.one]
    exact writes _ solid
  | @more line rest solid _ ih =>
    have some : rest.lines.map write ≠ [] := by simp [lines_ne_nil]
    rw [lines_break solid.one, spread_append, spread_break, spread_of_oneLine solid.one, ← ih,
      map_cons, writes _ solid, unlines_cons some, append_assoc]

end Firm

end AgentFlow.Text
