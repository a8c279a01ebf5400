import AgentFlow.Text.CharacterTables

/-!
# Lower case

Most lower-case forms shift whole runs of code points, every one or every second of them, by a fixed
distance.  Only the capital I with a dot becomes two characters.
-/

namespace AgentFlow

/-- The runs of capital letters that rows tell, from a number on: how many numbers lie before a run,
how far its last letter is from its first, the step, and the small letter of the first. -/
def Text.lowerShiftsFrom (start : Nat) : List Text → List (Nat × Nat × Nat × Int)
  | [] => []
  | row :: rest =>
    match rowNumbers row with
    | [gap, extent, step, small] =>
      let first := start + gap
      (first, first + extent, step, (small : Int) - first) ::
        lowerShiftsFrom (first + extent + 1) rest
    | _ => lowerShiftsFrom start rest

/-- Runs of code points with a one-character lower case: first, last, step and distance. -/
def Text.lowerShifts : List (Nat × Nat × Nat × Int) := lowerShiftsFrom 0 (characterRows 3)

def CodePoint.toLower (c : CodePoint) : Text :=
  let n := c.toNat
  if n = 0x130 then [CodePoint.ofNat 0x69, CodePoint.ofNat 0x307]
  else
    match Text.lowerShifts.find? fun (first, last, step, _) =>
        first ≤ n && n ≤ last && (n - first) % step == 0 with
    | some (_, _, _, distance) => [CodePoint.ofNat (n + distance).toNat]
    | none => [c]

def Text.toLower (t : Text) : Text := t.flatMap CodePoint.toLower

end AgentFlow
