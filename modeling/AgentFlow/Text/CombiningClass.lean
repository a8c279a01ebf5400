import AgentFlow.Text.CharacterTables

/-!
# Combining classes

A mark that goes on the character before it has a combining class: marks of different classes may
be written in any order without changing what is meant, marks of one class may not.  Characters
that start anew have class zero.
-/

namespace AgentFlow

/-- The runs of marks that rows tell, from a number on: how many numbers lie before a run, how far
its last mark is from its first, and the class. -/
def Text.combiningRunsFrom (start : Nat) : List Text → List (Nat × Nat × Nat)
  | [] => []
  | row :: rest =>
    match rowNumbers row with
    | [gap, extent, combining] =>
      let first := start + gap
      (first, first + extent, combining) :: combiningRunsFrom (first + extent + 1) rest
    | _ => combiningRunsFrom start rest

def Text.combiningRuns : List (Nat × Nat × Nat) := combiningRunsFrom 0 (characterRows 2)

def CodePoint.combiningClass (c : CodePoint) : Nat :=
  let n := c.toNat
  match Text.combiningRuns.find? fun (_, last, _) => n ≤ last with
  | some (first, _, combining) => if first ≤ n then combining else 0
  | none => 0

end AgentFlow
