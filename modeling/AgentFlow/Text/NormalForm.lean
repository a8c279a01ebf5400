import AgentFlow.Text.CombiningClass
import AgentFlow.Text.Decomposition

/-!
# The compatible normal form of names

Two spellings of a name are the same name when they have the same normal form.  Every character is
taken apart into what it stands for, the marks after each letter are put in the order of their
classes, and letters are put together again with their marks.
-/

namespace AgentFlow.Text

def classOf (n : Nat) : Nat := (CodePoint.ofNat n).combiningClass

/-! ## The order of marks -/

/-- Adds a code point to a text kept last first: a mark goes before the marks of a higher class that
it follows, and everything else stays where it is. -/
def place (n : Nat) : List Nat → List Nat
  | [] => [n]
  | last :: before =>
    if 0 < classOf n ∧ classOf n < classOf last then last :: place n before else n :: last :: before

/-- Puts the marks after each letter in the order of their classes, keeping the order of marks that
share one. -/
def orderMarks (numbers : List Nat) : List Nat :=
  (numbers.foldl (fun placed n => place n placed) []).reverse

/-! ## Putting letters together -/

/-- The Hangul syllable that two parts make: a leading consonant and a vowel, or a syllable without
a trailing consonant and such a consonant. -/
def syllable? (first second : Nat) : Option Nat :=
  if 0x1100 ≤ first ∧ first ≤ 0x1112 ∧ 0x1161 ≤ second ∧ second ≤ 0x1175 then
    some (0xAC00 + ((first - 0x1100) * 21 + (second - 0x1161)) * 28)
  else if 0xAC00 ≤ first ∧ first ≤ 0xD7A3 ∧ (first - 0xAC00) % 28 = 0 ∧
      0x11A8 ≤ second ∧ second ≤ 0x11C2 then
    some (first + (second - 0x11A7))
  else none

def joined? (first second : Nat) : Option Nat :=
  (syllable? first second).or (paired? first second)

/-- Whether a code point still reaches its letter past the marks kept in between: the last of them
must be of a lower class. -/
def reaches (marks : List Nat) (n : Nat) : Bool :=
  match marks.getLast? with
  | none => true
  | some last => classOf last < classOf n

/-- Puts together what a letter, the marks kept after it and the rest make. -/
def joinFrom (letter : Nat) (marks : List Nat) : List Nat → List Nat
  | [] => letter :: marks
  | n :: rest =>
    match if reaches marks n then joined? letter n else none with
    | some whole => joinFrom whole marks rest
    | none =>
      if classOf n = 0 then letter :: marks ++ joinFrom n [] rest
      else joinFrom letter (marks ++ [n]) rest

/-- Puts letters together with their marks; marks before the first letter are left alone. -/
def joinMarks : List Nat → List Nat
  | [] => []
  | n :: rest => if classOf n = 0 then joinFrom n [] rest else n :: joinMarks rest

/-! ## The form -/

/-- The compatible normal form of a name.  A text of ASCII characters is its own. -/
def normalForm (t : Text) : Text :=
  if t.all (·.toNat < 0x80) then t
  else (joinMarks (orderMarks (t.flatMap fun c => decomposed 4 c.toNat))).map CodePoint.ofNat

end AgentFlow.Text
