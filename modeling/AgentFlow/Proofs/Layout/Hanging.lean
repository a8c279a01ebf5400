import AgentFlow.Proofs.Layout.Quiet
import Mathlib.Data.List.Chain

/-!
# Hanging lines

All lines of a container or of a call but the first are indented, so none of them starts with a
word.
-/

namespace AgentFlow

open List

namespace Text

variable {t first second unit : Text}

/-- A text in which no line but the first starts with a word. -/
def Hangs (t : Text) : Prop :=
  t.IsChain fun c d : CodePoint => c = '\n' → d.isWord = false

/-- A text in which no line starts with a word. -/
def Inset (t : Text) : Prop := Hangs (.scalar '\n' :: t)

instance (t : Text) : Decidable t.Inset := inferInstanceAs (Decidable (List.IsChain _ _))

theorem hangs_of_oneLine (one : t.OneLine) : t.Hangs := by
  refine isChain_iff_forall_rel_of_append_cons_cons.2 fun c d before after shape same => ?_
  refine absurd ?_ one
  rw [shape, same]
  simp

theorem Hangs.append_oneLine (one : first.OneLine) (hangs : second.Hangs) :
    Hangs (first ++ second) :=
  (hangs_of_oneLine one).append hangs fun _ last _ _ same =>
    absurd (same ▸ mem_of_getLast? last) one

theorem Hangs.append (hangs : first.Hangs) (inset : second.Inset) : Hangs (first ++ second) :=
  List.IsChain.append hangs inset.tail fun _ _ _ head _ => inset.rel_head? head rfl

theorem Inset.append (inset : first.Inset) (other : second.Inset) : Inset (first ++ second) :=
  Hangs.append inset other

theorem inset_break (inset : t.Inset) : Inset (.scalar '\n' :: t) :=
  isChain_cons_cons.2 ⟨fun _ => by decide, inset⟩

/-- White space that is not empty, at the start of a line. -/
structure Indents (unit : Text) : Prop where
  gaps : unit.IsUnit
  some : unit ≠ []

theorem Indents.inset (indents : unit.Indents) (hangs : t.Hangs) : Inset (unit ++ t) := by
  obtain ⟨c, rest, rfl⟩ := exists_cons_of_ne_nil indents.some
  exact isChain_cons_cons.2
    ⟨fun _ => isWord_of_isGap (indents.gaps c mem_cons_self),
      hangs.append_oneLine indents.gaps.oneLine⟩

theorem inset_nil : Inset [] := .singleton _

theorem inset_unlines {pieces : List Text} (each : ∀ piece ∈ pieces, piece.Inset) :
    Inset (unlines pieces) := by
  induction pieces with
  | nil => exact inset_nil
  | cons piece rest ih =>
    obtain ⟨inset, others⟩ := forall_mem_cons.1 each
    cases rest with
    | nil => exact inset
    | cons next more =>
      rw [unlines_cons (by simp)]
      exact inset.append (inset_break (ih others))

theorem hangs_indentTail (indents : unit.Indents) (t : Text) : Hangs (indentTail unit t) := by
  unfold indentTail
  rcases oneLine_or_break t with one | ⟨line, rest, one, rfl⟩
  · rw [lines_of_oneLine one]
    exact hangs_of_oneLine one
  · rw [lines_break one]
    dsimp only
    rw [unlines_cons (by simp [lines_ne_nil])]
    refine Hangs.append_oneLine one (inset_unlines fun piece member => ?_)
    obtain ⟨line, among, rfl⟩ := mem_map.1 member
    split
    · next empty => exact List.isEmpty_iff.1 empty ▸ inset_nil
    · exact indents.inset (hangs_of_oneLine (oneLine_of_mem_lines rest line among))

theorem inset_join {items : List Text} (each : ∀ item ∈ items, item.Inset) :
    Inset (join ",\n" items) := by
  induction items with
  | nil => exact inset_nil
  | cons item rest ih =>
    obtain ⟨first, others⟩ := forall_mem_cons.1 each
    cases rest with
    | nil => exact first
    | cons next more =>
      rw [join, append_assoc]
      refine first.append ?_
      exact isChain_cons_cons.2 ⟨fun _ => by decide, isChain_cons_cons.2 ⟨by decide, ih others⟩⟩

theorem leading_of_inset (inset : t.Inset) : t.leading = [] := by
  cases t with
  | nil => rfl
  | cons c rest => exact leading_of_stop (inset.rel_head? rfl rfl)

theorem Inset.lines (inset : t.Inset) : ∀ line ∈ t.lines, line.leading = [] := by
  induction t using line_induction with
  | line t one =>
    rw [lines_of_oneLine one]
    exact forall_mem_singleton.2 (leading_of_inset inset)
  | more first rest one ih =>
    have start := leading_of_inset inset
    rw [leading_append_of_head (stops_break rest).head] at start
    rw [lines_break one]
    have later : rest.Inset :=
      (show Hangs ((.scalar '\n' :: first) ++ .scalar '\n' :: rest) from inset).right_of_append
    exact forall_mem_cons.2 ⟨start, ih later⟩

end Text

open Text

variable {unit source : Text} {entries : List (Text × Literal)}

theorem hangs_enclosed {opening closing : Text} {items : List Text} (one : opening.OneLine)
    (each : ∀ item ∈ items, item.Inset) (closes : closing.Inset) :
    Hangs (enclosed opening closing items) := by
  unfold enclosed
  simp only [append_assoc]
  exact Hangs.append_oneLine one ((inset_join each).append (inset_break closes))

/-- Whether the keyword of an argument is one line, if it has one. -/
def Argument.isLabelled (argument : Argument) : Bool :=
  argument.keyword.all fun keyword => decide keyword.OneLine

theorem Argument.inset_layout (indents : unit.Indents) {argument : Argument}
    (labelled : argument.isLabelled = true) : (argument.layout unit).Inset := by
  unfold Argument.layout
  have hangs := hangs_indentTail indents argument.source
  dsimp only
  split
  · next c rest given =>
      rw [isLabelled, given] at labelled
      rw [append_assoc, append_assoc]
      exact indents.inset
        ((hangs.append_oneLine (by decide)).append_oneLine (of_decide_eq_true labelled))
  · exact indents.inset hangs

theorem hangs_layoutCall (indents : unit.Indents) {function : Text} {arguments : List Argument}
    (one : function.OneLine) (labelled : arguments.all Argument.isLabelled = true) :
    Hangs (layoutCall function arguments unit) := by
  unfold layoutCall
  split
  · exact hangs_of_oneLine (one.append (by decide))
  · refine hangs_enclosed (one.append (by decide)) (fun item member => ?_) (by decide)
    obtain ⟨argument, among, rfl⟩ := mem_map.1 member
    exact Argument.inset_layout indents (all_eq_true.1 labelled argument among)

theorem inset_of_layoutEntries (indents : unit.Indents) {sources : List Text}
    (done : Literal.layoutEntries unit entries = .ok sources) :
    ∀ source ∈ sources, source.Inset := by
  intro source among
  obtain ⟨entry, _, inner, _, rfl⟩ :=
    exists_of_mem_right (Literal.layoutEntries_eq_ok.1 done) among
  rw [append_assoc, append_assoc]
  exact indents.inset (((hangs_indentTail indents inner).append_oneLine (by decide)).append_oneLine
    (oneLine_doubleQuoted _))

theorem hangs_layout_dict (indents : unit.Indents)
    (done : Literal.layout unit (.dict entries) = .ok source) : source.Hangs := by
  cases entries with
  | nil =>
    cases done
    exact hangs_of_oneLine (by decide)
  | cons entry rest =>
    rw [Literal.layout] at done
    · obtain ⟨sources, written, done⟩ := Except.bind_eq_ok.1 done
      rw [← Except.pure_eq_ok.1 done]
      exact hangs_enclosed (by decide) (inset_of_layoutEntries indents written) (by decide)
    · rintro ⟨⟩

end AgentFlow
