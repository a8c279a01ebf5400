import AgentFlow.Proofs.Emit.Orderly
import AgentFlow.Proofs.Text.Lines
import AgentFlow.Proofs.Unbroken

/-!
# The shape of names that are handed out

A name is made from its base by putting digits after it, so it is known up to those digits.  No name
can be made from a text that is not a plain name, and that is the only reason for which the symbol
table refuses a base.
-/

namespace AgentFlow

open List

/-- A text goes on with digits only, if at all. -/
def Text.Extends (base name : Text) : Prop :=
  ∃ digits : Text, name = base ++ digits ∧ ∀ c ∈ digits, c.isAsciiDigit = true

theorem Text.isAsciiDigit_ofNat (number : Nat) : ∀ c ∈ ofNat number, c.isAsciiDigit = true := by
  intro c member
  obtain ⟨digit, listed, rfl⟩ := mem_map.1 member
  have isDigit := Nat.isDigit_of_mem_toDigits (b := 10) (by decide) (by decide) listed
  simp only [Char.isDigit, Bool.and_eq_true, decide_eq_true_eq, UInt32.le_iff_toNat_le] at isDigit
  exact Bool.and_eq_true_iff.2 ⟨decide_eq_true isDigit.1, decide_eq_true isDigit.2⟩

theorem Text.Extends.notMem {base name : Text} {c : CodePoint} (extended : base.Extends name)
    (other : c.isAsciiDigit = false) (absent : c ∉ base) : c ∉ name := by
  obtain ⟨digits, rfl, areDigits⟩ := extended
  intro member
  have digit := areDigits c ((mem_append.1 member).resolve_left absent)
  simp [other] at digit

theorem Text.isPlainName_cons {c : CodePoint} {rest : Text} (starts : c.startsPlainName = true)
    (continues : ∀ d ∈ rest, d.continuesPlainName = true) : isPlainName (c :: rest) = true := by
  have all : ∀ d ∈ c :: rest, d.continuesPlainName = true :=
    forall_mem_cons.2 ⟨by simp [CodePoint.continuesPlainName, starts], continues⟩
  have kept : dropLineBreak (c :: rest) = c :: rest := by
    refine if_neg fun last => ?_
    exact absurd (all _ (mem_of_getLast? last)) (by decide)
  unfold isPlainName
  rw [kept]
  simpa [starts] using continues

/-- A plain beginning of names with which no word of a list starts. -/
def Text.isStem (words : List Text) (stem : Text) : Bool :=
  stem.head?.any CodePoint.startsPlainName && stem.all CodePoint.continuesPlainName &&
    words.all (!·.startsWith stem)

namespace Text

variable {words : List Text} {stem : Text}

theorem isStem_iff : isStem words stem = true ↔
    (∃ c rest, stem = c :: rest ∧ c.startsPlainName = true) ∧
      (∀ c ∈ stem, c.continuesPlainName = true) ∧ ∀ word ∈ words, word.startsWith stem = false := by
  have first : stem.head?.any CodePoint.startsPlainName = true ↔
      ∃ c rest, stem = c :: rest ∧ c.startsPlainName = true := by
    cases stem with
    | nil => simp
    | cons c rest => simp
  simp only [isStem, Bool.and_eq_true, all_eq_true, Bool.not_eq_true', and_assoc, first]

theorem notMem_of_isStem (stemmed : isStem words stem = true) (rest : Text) :
    stem ++ rest ∉ words := by
  intro listed
  have apart := (isStem_iff.1 stemmed).2.2 _ listed
  have starts : startsWith (stem ++ rest) stem = true :=
    isPrefixOf_iff_prefix.2 (prefix_append _ _)
  rw [starts] at apart
  cases apart

end Text

theorem Target.isKeyword_eq_false {name : Text} (free : name ∉ (Target.keywords : List Text)) :
    Target.isKeyword name = false := by
  rw [Bool.eq_false_iff]
  intro isKeyword
  obtain ⟨word, listed, same⟩ := any_eq_true.1 isKeyword
  exact free (mem_map.2 ⟨word, listed, (of_decide_eq_true same).symm⟩)

namespace SymbolTable

variable {table later : SymbolTable} {base name : Text}

theorem extends_of_allocate (handed : table.allocate base = some (name, later)) :
    isBase base = true ∧ base.Extends name := by
  have numbered (number : Nat) : base.Extends (numbered base number) :=
    ⟨_, rfl, Text.isAsciiDigit_ofNat number⟩
  unfold allocate at handed
  split at handed
  · cases handed
  · next usable =>
      refine ⟨by simpa using usable, ?_⟩
      split at handed
      · split at handed
        · cases handed
          exact ⟨[], (append_nil _).symm, forall_mem_nil _⟩
        · cases handed
          exact numbered _
      · cases handed
        exact numbered _

theorem exists_allocate (table : SymbolTable) (usable : isBase base = true) :
    ∃ name later, table.allocate base = some (name, later) := by
  unfold allocate
  rw [usable]
  simp only [Bool.not_true, Bool.false_eq_true, if_false]
  split
  · split
    · exact ⟨_, _, rfl⟩
    · exact ⟨_, _, rfl⟩
  · exact ⟨_, _, rfl⟩

/-- Names can be made from a name of an agent and what is put after it. -/
theorem isBase_agent {suffix : Text} (extended : Text.Extends "agent" name)
    (plain : ∀ c ∈ suffix, c.continuesPlainName = true) : isBase (name ++ suffix) = true := by
  obtain ⟨digits, rfl, areDigits⟩ := extended
  have stemmed : Text.isStem Target.keywords "agent" = true := by decide
  have continues : ∀ c ∈ Text.ofString "gent" ++ digits ++ suffix, c.continuesPlainName = true := by
    simp only [forall_mem_append]
    refine ⟨⟨by decide, fun c member => ?_⟩, plain⟩
    simp [CodePoint.continuesPlainName, areDigits c member]
  have isPlain : Text.isPlainName (Text.ofString "agent" ++ digits ++ suffix) = true :=
    Text.isPlainName_cons (by decide) continues
  have free : Target.isKeyword (Text.ofString "agent" ++ digits ++ suffix) = false := by
    rw [append_assoc]
    exact Target.isKeyword_eq_false (Text.notMem_of_isStem stemmed _)
  rw [isBase, isPlain, free]
  rfl

end SymbolTable

namespace Emit

open Stoppable

theorem allocate_returns (base : Text) : Returns (allocate base) fun name =>
    SymbolTable.isBase base = true ∧ base.Extends name := by
  intro draft last name done
  rw [allocate_run] at done
  cases handed : draft.symbols.allocate base with
  | none =>
    rw [handed] at done
    cases done
  | some result =>
    rw [handed] at done
    cases done
    exact SymbolTable.extends_of_allocate handed

theorem allocate_oneLine {base : Text} (one : base.OneLine) :
    Returns (allocate base) Text.OneLine := fun _ _ _ done =>
  (allocate_returns base done).2.notMem (by decide) one

theorem allocate_steady {limits : Limits} {base : Text} (usable : SymbolTable.isBase base = true) :
    Steady limits (allocate base) := by
  intro draft
  obtain ⟨name, later, handed⟩ := draft.symbols.exists_allocate usable
  rw [allocate_run, handed]
  exact .ok name

end Emit

end AgentFlow
