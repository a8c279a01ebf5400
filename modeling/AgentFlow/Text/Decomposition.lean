import AgentFlow.Text.CharacterTables

/-!
# Decompositions

Characters that names can hold and that stand for others.  An entry of a table gives a code point,
an equals sign and the code points it stands for, in hexadecimal.  A run of code points, from the
first to the last, stands for as many consecutive ones.  An entry without an equals sign is about
the next code point.

A letter with a mark is a pair, and pairs are read in both directions.  Syllables of Hangul are
computed.
-/

namespace AgentFlow.Text

/-- An entry of a table: a run of code points and what the first of them stands for. -/
structure Form where
  first : Nat
  last : Nat
  parts : List Nat
deriving DecidableEq, Repr

/-- The entry that a text spells, after entries for the code points before the given one. -/
def Form.ofText? (next : Nat) (t : Text) : Option Form :=
  match t.splitOn '=' with
  | [target] => (target.splitOn '+').mapM hexValue? |>.map (⟨next, next, ·⟩)
  | [source, target] => do
    let parts ← (target.splitOn '+').mapM hexValue?
    match ← (source.splitOn '-').mapM hexValue? with
    | [only] => some ⟨only, only, parts⟩
    | [first, last] => some ⟨first, last, parts⟩
    | _ => none
  | _ => none

def formsFrom (next : Nat) : List Text → List Form
  | [] => []
  | t :: rest =>
    match Form.ofText? next t with
    | some form => form :: formsFrom (form.last + 1) rest
    | none => formsFrom next rest

def pairs : List Form := formsFrom 0 (characterRows 0)

def forms : List Form := formsFrom 0 (characterRows 1)

def partsIn (table : List Form) (n : Nat) : Option (List Nat) :=
  (table.find? fun form => form.first ≤ n && n ≤ form.last).map fun form =>
    form.parts.map (· + (n - form.first))

/-- What a code point stands for, pairs being taken apart again and again.  Four rounds reach the
parts of the letters with most marks. -/
def decomposed : Nat → Nat → List Nat
  | 0, n => [n]
  | rounds + 1, n =>
    if n < 0x80 then [n]
    else
      match partsIn pairs n with
      | some parts => parts.flatMap (decomposed rounds)
      | none => (partsIn forms n).getD [n]

def paired? (first second : Nat) : Option Nat :=
  (pairs.find? (·.parts = [first, second])).map Form.first

end AgentFlow.Text
