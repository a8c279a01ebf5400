/-!
# Interval tables

A property of code points is stored as a list of closed intervals of numbers, in increasing order.
Membership stops at the first interval beyond the number asked for.  Long lists are given by steps,
packed into hexadecimal digits: how many numbers lie before an interval, and how far its last number
is from its first.
-/

namespace AgentFlow.Text

/-- A list of closed intervals of numbers, in increasing order. -/
abbrev Ranges := List (Nat × Nat)

/-- The numbers that hexadecimal digits spell.  A digit below ten ends a number, and the letters
before it count the tens in base six. -/
def spelledNumbers (tens : Nat) : List Nat → List Nat
  | [] => []
  | digit :: rest =>
    if digit < 10 then (10 * tens + digit) :: spelledNumbers 0 rest
    else spelledNumbers (6 * tens + (digit - 10)) rest

/-- The numbers that are packed into lines of 92 digits. -/
def unpacked (lines : List Nat) : List Nat :=
  spelledNumbers 0 (lines.flatMap fun line =>
    (List.range 92).map fun place => line / Nat.pow 16 (91 - place) % 16)

namespace Ranges

/-- The intervals that steps lead to, from a number on. -/
def ofSteps (start : Nat) : List Nat → Ranges
  | gap :: extent :: rest =>
    (start + gap, start + gap + extent) :: ofSteps (start + gap + extent + 1) rest
  | _ => []

def ofPacked (lines : List Nat) : Ranges := ofSteps 0 (unpacked lines)

def contains : Ranges → Nat → Bool
  | [], _ => false
  | (first, last) :: rest, n =>
    if n < first then false else if n ≤ last then true else contains rest n

/-- Numbers between two bounds lie in no interval when every interval ends before or starts after
them. -/
theorem contains_of_apart {ranges : Ranges} {n : Nat} (low high : Nat)
    (apart : ∀ range ∈ ranges, range.2 < low ∨ high < range.1) (above : low ≤ n)
    (below : n ≤ high) : ranges.contains n = false := by
  induction ranges with
  | nil => rfl
  | cons range rest ih =>
      have outside := apart range List.mem_cons_self
      simp only [contains]
      split
      · rfl
      · rw [if_neg (by omega), ih fun other member => apart other (List.mem_cons_of_mem _ member)]

end Ranges

end AgentFlow.Text
