import AgentFlow.Proofs.Layout.Finite
import AgentFlow.Proofs.Target.Numeral
import AgentFlow.Proofs.Text.Binding

/-!
# Quiet layout

The further lines of a literal or of a call start with a quotation mark, a bracket, a number, a
keyword with an equals sign, or a piece of code that was put there.  So a layout is quiet if these
pieces are.
-/

namespace AgentFlow

open List Text
open AgentFlow.Except (bind_eq_ok pure_eq_ok)

namespace Text

variable {t first rest : Text} {c : CodePoint}

theorem tame_cons (tight : c.isGap = false) (fresh : ∀ word ∈ watched, word.head? ≠ some c) :
    Tame (c :: rest) := by
  rw [Tame, dropWhile_cons_of_neg (by simp [tight])]
  intro member
  cases isWord : c.isWord with
  | false =>
    rw [leading_of_stop isWord] at member
    exact nil_notMem_watched member
  | true =>
    refine fresh _ member ?_
    rw [leading, takeWhile_cons_of_pos isWord]
    rfl

theorem oneLine_doubleQuoted (t : Text) : t.doubleQuoted.OneLine := by
  have small : ∀ n < 0x20, (CodePoint.unit16Escape n).OneLine := by decide
  have encoded (c : CodePoint) : c.encoded.OneLine := by
    unfold CodePoint.encoded
    split
    · next special =>
        rcases special with rfl | rfl <;> decide
    · split
      · decide
      · next other =>
          repeat' split
          any_goals decide
          · next control => exact small _ control
          · exact fun member => other (mem_singleton.1 member).symm
  unfold doubleQuoted
  simp only [OneLine, mem_cons, mem_append, mem_flatMap, not_mem_nil, or_false,
    not_or, not_exists, not_and]
  exact ⟨by decide, fun c _ => encoded c, by decide⟩

theorem tame_doubleQuoted (t rest : Text) : Tame (t.doubleQuoted ++ rest) :=
  tame_cons (by decide) (by decide)

theorem quiet_doubleQuoted (t : Text) : t.doubleQuoted.Quiet :=
  .of_oneLine (append_nil t.doubleQuoted ▸ tame_doubleQuoted t []) (oneLine_doubleQuoted t)

theorem quiet_numeral {c : Char} {rest : List Char} (starts : c.isDigit = true ∨ c = '-')
    (numeric : ∀ d ∈ c :: rest, Target.isNumeric d = true) : Quiet (ofChars (c :: rest)) := by
  have one : (ofChars (c :: rest)).OneLine := by
    intro member
    obtain ⟨d, among, same⟩ := mem_map.1 member
    cases same
    exact absurd (numeric _ among) (by decide)
  have fresh : ∀ word ∈ watched, ∀ d ∈ word.head?, d.isAsciiDigit = false ∧ d ≠ '-' := by decide
  refine .of_oneLine ?_ one
  rcases starts with isDigit | rfl
  · simp only [Char.isDigit, Bool.and_eq_true, decide_eq_true_eq, UInt32.le_iff_toNat_le] at isDigit
    have digit : (CodePoint.scalar c).isAsciiDigit = true :=
      Bool.and_eq_true_iff.2 ⟨decide_eq_true isDigit.1, decide_eq_true isDigit.2⟩
    refine tame_cons (isGap_of_isWord ?_) fun word member same => ?_
    · simp [CodePoint.isWord, CodePoint.continuesPlainName, digit]
    · exact absurd digit (by simp [(fresh word member _ same).1])
  · exact tame_cons (by decide) fun word member same => (fresh word member _ same).2 rfl

theorem quiet_ofInt (value : Int) : (ofInt value).Quiet := by
  have numeric (n : Nat) (c : Char) (member : c ∈ Nat.toDigits 10 n) : c.isDigit = true :=
    Target.isDigit_toDigits n c member
  cases value with
  | ofNat n =>
    obtain ⟨c, rest, shape⟩ := exists_cons_of_ne_nil (Target.toDigits_ne_nil n)
    have digits := numeric n
    rw [shape] at digits
    show Quiet (ofChars (Nat.toDigits 10 n))
    rw [shape]
    exact quiet_numeral (.inl (digits c mem_cons_self))
      fun d member => Target.isNumeric_of_isDigit (digits d member)
  | negSucc n =>
    exact quiet_numeral (.inr rfl) (forall_mem_cons.2
      ⟨by decide, fun d member => Target.isNumeric_of_isDigit (numeric (n + 1) d member)⟩)

theorem oneLine_ofInt (value : Int) : (ofInt value).OneLine := by
  cases value with
  | ofNat n => exact oneLine_ofNat n
  | negSucc n => exact (show OneLine [.scalar '-'] by decide).append (oneLine_ofNat (n + 1))

theorem quiet_toText {x : Binary64} (finite : x.isFinite = true) : x.toText.Quiet := by
  obtain ⟨c, rest, shape, digit, numeric⟩ := Target.doubleChars_spec finite
  rw [Target.toText_eq finite, shape]
  split
  · exact quiet_numeral (.inr rfl) (forall_mem_cons.2 ⟨by decide, numeric⟩)
  · exact quiet_numeral (.inl digit) numeric

/-! ## Indenting and joining -/

/-- Units of indentation are white space within a line. -/
def IsUnit (unit : Text) : Prop := ∀ c ∈ unit, c.isGap = true

variable {unit : Text}

instance : Decidable unit.IsUnit := inferInstanceAs (Decidable (∀ c ∈ unit, c.isGap = true))

theorem IsUnit.oneLine (isUnit : unit.IsUnit) : unit.OneLine := fun member =>
  absurd (isUnit _ member) (by decide)

theorem tame_indentTail (tame : t.Tame) : Tame (indentTail unit t) := by
  unfold indentTail
  rcases oneLine_or_break t with one | ⟨line, rest, one, rfl⟩
  · rw [lines_of_oneLine one]
    exact tame
  · rw [lines_break one]
    have some : rest.lines.map (fun line => if line.isEmpty then line else unit ++ line) ≠ [] := by
      simp [lines_ne_nil]
    dsimp only
    rw [unlines_cons some]
    exact tame_break.2 (tame_break.1 tame)

theorem serene_indentTail (isUnit : unit.IsUnit) (serene : t.Serene) :
    Serene (indentTail unit t) := by
  unfold indentTail
  rcases oneLine_or_break t with one | ⟨line, rest, one, rfl⟩
  · rw [lines_of_oneLine one]
    exact serene
  · rw [lines_break one]
    have some : rest.lines.map (fun line => if line.isEmpty then line else unit ++ line) ≠ [] := by
      simp [lines_ne_nil]
    have quiet : rest.Quiet := serene_break.1 ((serene_append_of_oneLine one).1 serene)
    dsimp only
    rw [unlines_cons some, serene_append_of_oneLine one, serene_break]
    refine quiet_unlines fun piece member => ?_
    obtain ⟨line, among, rfl⟩ := mem_map.1 member
    have tame := quiet.lines line among
    have one := oneLine_of_mem_lines rest line among
    split
    · exact ⟨tame, one⟩
    · exact ⟨(tame_margin isUnit).2 tame, isUnit.oneLine.append one⟩

theorem Quiet.indentTail (isUnit : unit.IsUnit) (quiet : t.Quiet) :
    Quiet (indentTail unit t) := ⟨tame_indentTail quiet.tame, serene_indentTail isUnit quiet.serene⟩

theorem quiet_join {items : List Text} (each : ∀ item ∈ items, item.Quiet) :
    Quiet (join ",\n" items) := by
  have stops (rest : Text) : Stops (",\n" ++ rest) := by
    rintro c ⟨⟩
    decide
  induction items with
  | nil => exact ⟨tame_nil, trivial⟩
  | cons item rest ih =>
    obtain ⟨first, others⟩ := forall_mem_cons.1 each
    cases rest with
    | nil => exact first
    | cons next more =>
      rw [join, append_assoc]
      refine first.append (stops _) ?_
      exact (serene_append_of_oneLine (show OneLine [.scalar ','] by decide)).2
        (serene_break.2 (ih others))

end Text

/-! ## Containers and calls -/

variable {unit opening closing : Text}

theorem serene_enclosed {items : List Text} (one : opening.OneLine)
    (each : ∀ item ∈ items, item.Quiet) (closes : closing.Quiet) :
    Serene (enclosed opening closing items) := by
  unfold enclosed
  simp only [append_assoc]
  refine (serene_append_of_oneLine one).2 (serene_break.2 ?_)
  exact (quiet_join each).append (stops_break _) (serene_break.2 closes)

namespace Literal

/-- All lines of the layout of a literal are tame. -/
def LaysQuiet (unit : Text) (literal : Literal) : Prop :=
  ∀ source, literal.layout unit = .ok source → source.Quiet

/-- All lines of the layout of a literal but the first are tame. -/
def LaysSerene (unit : Text) (literal : Literal) : Prop :=
  ∀ source, literal.layout unit = .ok source → source.Serene

theorem LaysQuiet.serene {literal : Literal} (quiet : literal.LaysQuiet unit) :
    literal.LaysSerene unit := fun source done => (quiet source done).serene

theorem laysQuiet_scalar (value : Scalar) : LaysQuiet unit (.scalar value) := by
  intro source done
  cases value with
  | null =>
    cases done
    decide
  | bool value =>
    cases done
    cases value <;> decide
  | int value =>
    cases done
    exact quiet_ofInt value
  | float value =>
    rw [layout, writeScalar] at done
    split at done
    · next finite =>
        cases done
        exact quiet_toText finite
    · cases done
  | str value =>
    cases done
    exact quiet_doubleQuoted value

variable {source : Text} {items : List Literal} {sources : List Text}
  {entries : List (Text × Literal)}

theorem laysQuiet_code (quiet : source.Quiet) : LaysQuiet unit (.code source) := by
  rintro _ ⟨⟩
  exact quiet

theorem laysSerene_code (serene : source.Serene) : LaysSerene unit (.code source) := by
  rintro _ ⟨⟩
  exact serene

theorem quiet_of_layoutItems (isUnit : unit.IsUnit) (each : ∀ item ∈ items, LaysQuiet unit item)
    (done : layoutItems unit items = .ok sources) : ∀ source ∈ sources, source.Quiet := by
  intro source among
  obtain ⟨item, listed, inner, written, rfl⟩ :=
    exists_of_mem_right (layoutItems_eq_ok.1 done) among
  exact ((each item listed inner written).indentTail isUnit).indented isUnit

theorem quiet_of_layoutEntries (isUnit : unit.IsUnit)
    (each : ∀ entry ∈ entries, LaysSerene unit entry.2)
    (done : layoutEntries unit entries = .ok sources) : ∀ source ∈ sources, source.Quiet := by
  intro source among
  obtain ⟨entry, listed, inner, written, rfl⟩ :=
    exists_of_mem_right (layoutEntries_eq_ok.1 done) among
  simp only [append_assoc]
  refine Quiet.indented ⟨tame_doubleQuoted entry.1 _, ?_⟩ isUnit
  rw [serene_append_of_oneLine (oneLine_doubleQuoted _), serene_append_of_oneLine (by decide)]
  exact serene_indentTail isUnit (each entry listed inner written)

theorem laysQuiet_list (isUnit : unit.IsUnit) (each : ∀ item ∈ items, LaysQuiet unit item) :
    LaysQuiet unit (.list items) := by
  intro source done
  cases items with
  | nil =>
    cases done
    decide
  | cons item rest =>
    rw [layout] at done
    · obtain ⟨sources, written, done⟩ := bind_eq_ok.1 done
      rw [← pure_eq_ok.1 done]
      exact ⟨tame_cons (by decide) (by decide),
        serene_enclosed (by decide) (quiet_of_layoutItems isUnit each written) (by decide)⟩
    · rintro ⟨⟩

theorem laysQuiet_dict (isUnit : unit.IsUnit) (each : ∀ entry ∈ entries, LaysSerene unit entry.2) :
    LaysQuiet unit (.dict entries) := by
  intro source done
  cases entries with
  | nil =>
    cases done
    decide
  | cons entry rest =>
    rw [layout] at done
    · obtain ⟨sources, written, done⟩ := bind_eq_ok.1 done
      rw [← pure_eq_ok.1 done]
      exact ⟨tame_cons (by decide) (by decide),
        serene_enclosed (by decide) (quiet_of_layoutEntries isUnit each written) (by decide)⟩
    · rintro ⟨⟩

/-- **The layout of a value is quiet.** -/
theorem laysQuiet_ofJson (isUnit : unit.IsUnit) (value : Json) : LaysQuiet unit (ofJson value) := by
  induction value using Json.induction with
  | arr items ih =>
    rw [ofJson, ofItems_eq]
    refine laysQuiet_list isUnit fun literal member => ?_
    obtain ⟨item, among, rfl⟩ := mem_map.1 member
    exact ih item among
  | obj entries ih =>
    rw [ofJson, ofEntries_eq]
    refine laysQuiet_dict isUnit fun literal member => ?_
    obtain ⟨entry, among, rfl⟩ := mem_map.1 member
    exact (ih entry among).serene
  | _ => exact laysQuiet_scalar _

end Literal

namespace Argument

/-- Whether a text can be the keyword of a quiet argument. -/
def isLabel (keyword : Text) : Bool :=
  !keyword.isEmpty && opens (keyword ++ "=") && !keyword.contains '\n'

/-- An argument whose further lines are tame, and its first one too if no keyword stands before it.
-/
def IsQuiet (argument : Argument) : Prop :=
  match argument.keyword with
  | some (c :: rest) => isLabel (c :: rest) = true ∧ argument.source.Serene
  | _ => argument.source.Quiet

variable {source : Text}

theorem isQuiet_named {keyword : Text} (label : isLabel keyword = true) (serene : source.Serene) :
    (named keyword source).IsQuiet := by
  cases keyword with
  | nil => cases label
  | cons c rest => exact ⟨label, serene⟩

theorem isQuiet_positional (quiet : source.Quiet) : (positional source).IsQuiet :=
  quiet

theorem IsQuiet.layout {argument : Argument} (isUnit : unit.IsUnit) (quiet : argument.IsQuiet) :
    (argument.layout unit).Quiet := by
  unfold Argument.layout
  unfold IsQuiet at quiet
  dsimp only
  split
  · next c rest given =>
      rw [given] at quiet
      obtain ⟨label, serene⟩ := quiet
      obtain ⟨opening, one⟩ : opens (c :: rest ++ "=") = true ∧ OneLine (c :: rest) := by
        simpa [isLabel, OneLine] using label
      rw [append_assoc, append_assoc, ← append_assoc (c :: rest)]
      exact (Quiet.of_opens opening (one.append (by decide))
        (serene_indentTail isUnit serene)).indented isUnit
  · next none =>
      split at quiet
      · next given => exact absurd given (none _ _)
      · exact (quiet.indentTail isUnit).indented isUnit

end Argument

theorem serene_layoutCall (isUnit : unit.IsUnit) {function : Text} {arguments : List Argument}
    (one : function.OneLine) (each : ∀ argument ∈ arguments, argument.IsQuiet) :
    Serene (layoutCall function arguments unit) := by
  unfold layoutCall
  split
  · exact serene_of_oneLine (one.append (by decide))
  · refine serene_enclosed (one.append (by decide)) (fun item member => ?_) (by decide)
    obtain ⟨argument, among, rfl⟩ := mem_map.1 member
    exact (each argument among).layout isUnit

end AgentFlow
