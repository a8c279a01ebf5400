import AgentFlow.Proofs.Target.Phrases
import AgentFlow.Proofs.Target.Quoted

/-!
# Tokens over several lines

A line break inside brackets is a gap like any other, but the lexer takes a step for it.  With the
gaps, the marks and the words here, a text may be laid out over several lines and still be read as
the tokens of a single one.
-/

namespace AgentFlow.Target

open List

def opensWord : List Char → Bool
  | [] => false
  | c :: _ => startsName c

variable {margin : List Char}

/-! ## Gaps -/

theorem lexes_gaps (spaces : ∀ c ∈ margin, c = ' ') : Lexes anything 0 margin [] where
  unbroken c member := by
    rw [spaces c member]
    decide
  reads := by
    have areGaps : ∀ c ∈ margin, isGap c = true := fun c member => by
      rw [spaces c member]
      rfl
    refine ⟨0, Nat.le_refl 0, Nat.zero_le _, fun fuel depth left _ _ => ?_⟩
    rw [Nat.add_zero, tokensFrom_gaps areGaps]
    simp

theorem lexes_break (spaces : ∀ c ∈ margin, c = ' ') :
    Lexes anything 1 ('\n' :: margin) [] := by
  have first : Lexes anything 1 ['\n'] [] :=
    { unbroken := by decide
      reads := by
        refine ⟨1, Nat.zero_le 1, Nat.le_refl 1, fun fuel depth left deep _ => ?_⟩
        have inside : decide (depth = 0) = false := decide_eq_false (by omega)
        rw [singleton_append, tokensFrom]
        simp [isGap, inside, Nat.lt_of_succ_le deep] }
  exact first.append (lexes_gaps spaces).deepen fun _ _ => rfl

/-! ## Marks and words -/

theorem lexes_comma : Lexes anything 0 [','] [.op ","] :=
  .single (by decide) (by decide) (fun _ => rfl) fun _ _ => readToken_operator (by decide) _

theorem lexes_equals : Lexes opensOperand 0 ['='] [.op "="] := by
  refine .single (by decide) (by decide) (fun _ => rfl) fun left opens => ?_
  cases left with
  | nil => cases opens
  | cons c rest =>
    have other : c ≠ '=' := by
      rintro rfl
      exact absurd (show opensToken '=' = true from opens) (by decide)
    rw [cons_append, readToken_operator (by decide)]
    simp [operators, other.symm]
    rfl

theorem lexes_point : Lexes opensWord 0 ['.'] [.op "."] := by
  refine .single (by decide) (by decide) (fun _ => rfl) fun left opens => ?_
  cases left with
  | nil => cases opens
  | cons c rest =>
    have word : startsName c = true := opens
    have digit : c.isDigit = false := by
      by_contra number
      exact Bool.noConfusion (word.symm.trans (plain_of_isDigit (by simpa using number)).2.1)
    have other : c ≠ '.' := by
      rintro rfl
      exact absurd word (by decide)
    have noString : readString? ('.' :: c :: rest) = none := readString?_none (by decide) _
    have noName : startsName '.' = false := by decide
    simp [readToken, noString, noName, digit, operators, other.symm]
    rfl

theorem lexes_identifier {name : Text} (identifier : name.isIdentifier = true)
    (ascii : name.all (·.toNat < 0x80) = true) (free : isKeyword name = false) :
    ∃ c rest, name = Text.ofChars (c :: rest) ∧ startsName c = true ∧
      (∀ d ∈ c :: rest, fitsLine d = true) ∧ Lexes endsWord 0 (c :: rest) [.name name] := by
  obtain ⟨c, rest, same, starts, continues, read⟩ := readToken_identifier identifier ascii free
  have fits (d : Char) (member : d ∈ c :: rest) := unbroken_of_continuesName (continues d member)
  exact ⟨c, rest, same, starts, fits,
    .single (fun d member => ne_return_of_fitsLine (fits d member))
    (begins_of_opens (opens_of_startsName starts)) (fun _ => rfl) read⟩

end AgentFlow.Target
