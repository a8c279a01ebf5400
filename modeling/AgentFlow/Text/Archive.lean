/-!
# Archived tables

The longest tables are kept in an archive of binary decisions, eight for each character.  A decision
is foretold from the last characters, the word so far, how the text went on where its last
characters stood before, and the entry before.  The archive learns how likely a decision is in each
of these contexts, and how far each kind of context can be trusted.  The decisions together are one
number: each narrows the range in which it lies, the likely outcome less than the other.
-/

namespace AgentFlow

structure Archive where
  size : Nat
  text : String

namespace Archive

/-! ## The number -/

def digits : String :=
  "!#$%&'()*+,.0123456789:;<=>?@ABCDEFGHIJKLMNOPQRSTUVWXYZ[]^_abcdefghijklmnopqrstuvwxyz|~"

def values : Array Nat :=
  digits.toList.zipIdx.foldl (fun values (digit, value) => values.setIfInBounds digit.toNat value)
    (Array.replicate 128 0)

/-- The bytes that digits spell, 62 in every 77. -/
def bytes (digits : List Char) : List Nat :=
  (digits.foldr (fun digit (block, place, found) =>
    let block := block + values.getD digit.toNat 0 * Nat.pow 87 place
    if place < 76 then (block, place + 1, found)
    else (0, 0, (List.range 62).map (fun i => block / Nat.pow 256 (61 - i) % 256) ++ found))
    (0, 0, [])).2.2

/-! ## Chances

The chance of a one is told in 65536 times.  Chances are added up as the logarithms of their odds,
where 256 doubles the odds. -/

/-- The logarithm of the odds of a chance that is not the lower one. -/
def strength (chance other : Nat) : Nat :=
  let doublings := (chance / other).log2
  256 * doublings + 256 * chance / (other <<< doublings) - 256

/-- The logarithms of the odds of chances, sixteen apart. -/
def logOdds : Array Int :=
  (Array.range 4096).map fun step =>
    let chance := 16 * step + 8
    if step < 2048 then -strength (65536 - chance) chance else strength chance (65536 - chance)

/-- The chance with the given logarithm of its odds. -/
def chanceOf (logOdds : Int) : Nat :=
  let size := min logOdds.natAbs 4095
  let odds := (256 + size % 256) <<< (size / 256)
  let chance := min (65536 * odds / (odds + 256)) 65527
  if logOdds < 0 then 65536 - chance else chance

/-- A chance after a decision: corrected by a part of its error. -/
def corrected (digit part chance : Nat) : Nat :=
  if digit = 1 then min (chance + (65536 - chance) / part) 65535 else max (chance - chance / part) 1

/-- What has been learned of a context, with one more decision.  In it are a chance, how often it
was corrected, up to thirty times, and the last five decisions after a one. -/
def followed (digit learned : Nat) : Nat :=
  let count := learned / 64 % 64
  let past := 2 * (learned % 64) + digit
  (corrected digit (count + 2) (learned / 4096) * 64 + min (count + 1) 30) * 64 +
    if past < 64 then past else 32 + past % 32

/-! ## Decisions -/

/-- What is left of an archive: the bytes to come, the range, the number in it, what has been
learned of each context and of the last decisions in it, and the weights. -/
structure Rest where
  bytes : List Nat
  range : Nat
  number : Nat
  learned : Array Nat
  outlooks : Array Nat
  weights : Array Int

abbrev Reader := StateM Rest

/-- A small range and the number in it are given by one more byte. -/
def Rest.widened (rest : Rest) : Rest :=
  if rest.range < 0x1000000 then
    { rest with
      bytes := rest.bytes.tail
      range := rest.range * 256
      number := rest.number * 256 + rest.bytes.headD 0 }
  else rest

/-- What contexts speak for, all of them together.  Their weights start at the given place. -/
def weighed (weights : Array Int) : Nat → List Int → Int
  | _, [] => 0
  | place, sign :: signs => weights.getD place 0 * sign + weighed weights (place + 1) signs

/-- The weights after an error: a context that spoke for it loses weight. -/
def reweighed (error : Int) : Nat → List Int → Array Int → Array Int
  | _, [], weights => weights
  | place, sign :: signs, weights =>
    reweighed error (place + 1) signs (weights.modify place (· + sign * error / 524288))

/-- A decision in the given contexts.  There are two sets of weights for it. -/
def decision (contexts : List Nat) (set other : Nat) : Reader Nat :=
  fun ⟨bytes, range, number, learned, outlooks, weights⟩ =>
    let known := contexts.map (learned.getD · 0)
    let pasts := known.mapIdx fun kind fact => 64 * kind + fact % 64
    let signs := known.map (fun fact => logOdds.getD (fact / 65536) 0) ++
      pasts.map fun past => logOdds.getD (outlooks.getD past 0 / 16) 0
    let sum := weighed weights set signs / 4096
    let sum' := weighed weights other signs / 4096
    let bound := range / 65536 * chanceOf ((sum + sum') / 2)
    let digit := if number < bound then 1 else 0
    let learned := contexts.foldl (fun learned context => learned.modify context (followed digit))
      learned
    let outlooks := pasts.foldl (fun outlooks past => outlooks.modify past (corrected digit 64))
      outlooks
    let weights := reweighed (65536 * digit - chanceOf sum) set signs weights
    let weights := reweighed (65536 * digit - chanceOf sum') other signs weights
    let rest : Rest :=
      if digit = 1 then ⟨bytes, bound, number, learned, outlooks, weights⟩
      else ⟨bytes, range - bound, number - bound, learned, outlooks, weights⟩
    (digit, rest.widened.widened)

/-! ## Characters -/

/-- What has been read: the characters, where the last entry starts and where the one before it
does, a number for the word so far, where the text is likely to go on as before and for how long it
has, and the places after each four characters. -/
structure Found where
  chars : Array Nat
  entry : Nat
  previous : Nat
  word : Nat
  place : Nat
  length : Nat
  places : Array Nat

def Found.back (found : Found) (distance : Nat) : Nat :=
  if distance < found.chars.size then found.chars.getD (found.chars.size - 1 - distance) 0 else 0

/-- Numbers for the last characters: for none of them, for one, and so on up to four. -/
def Found.starts (found : Found) : List Nat :=
  ((List.range 4).map found.back).scanl (fun start code => (start * 263 + code + 1) % 1000000007) 0

def Found.contexts (found : Found) : List Nat :=
  let guess := if found.length = 0 then 0
    else found.chars.getD found.place 0 * 32 + min found.length 15
  let place := found.chars.size - found.entry
  let above := found.chars.getD (found.previous + place) 0 * 256
  let aside := if found.previous + place = 0 then 0
    else found.chars.getD (found.previous + place - 1) 0
  let kind := if found.entry = 0 then 0 else found.chars.getD (found.entry - 1) 0
  found.starts.drop 1 ++ [found.word, guess, above + found.back 0,
    (above + aside) * 256 + found.back 0, found.back 1 * 256 + found.back 2,
    min place 31 * 256 + kind]

def Found.push (found : Found) (code : Nat) : Found :=
  let ⟨chars, entry, previous, word, place, length, places⟩ := found
  let (entry, previous) :=
    if 97 ≤ code ∧ code ≤ 122 ∨ code = 59 then (chars.size + 1, entry) else (entry, previous)
  let length := if 0 < length ∧ chars.getD place 0 = code then length + 1 else 0
  let found : Found := {
    chars := chars.push code
    entry
    previous
    word := if 65 ≤ code ∧ code ≤ 90 ∨ 128 ≤ code then (word * 263 + code) % 1000000007 else 0
    place := place + 1
    length
    places := #[] }
  let start := found.starts.getLastD 0 % 262144
  let place := if length = 0 then places.getD start 0 else place + 1
  { found with
    place
    length := if length = 0 ∧ 0 < place then 1 else length
    places := places.setIfInBounds start found.chars.size }

/-- Reads one more character.  As many contexts as given are told apart. -/
def Found.step (count : Nat) (found : Found) : Reader Found := do
  let contexts := found.contexts.zipIdx.map fun (context, kind) => context * 16 + kind
  let node ← (List.range 8).foldlM (fun node _ => do
    let contexts := contexts.map fun context => (context * 256 + node) * 40503 % count
    let digit ← decision contexts (20 * node) (20 * (256 + found.back 0))
    return 2 * node + digit) 1
  return found.push (node - 256)

end Archive

def Archive.unpack (archive : Archive) : List Char :=
  let bytes := bytes (archive.text.toList.filter (! ·.isWhitespace))
  let count := 60 * archive.size + 1
  let rest : Rest :=
    { bytes := bytes.drop 4
      range := 0xFFFFFFFF
      number := (bytes.take 4).foldl (fun number byte => number * 256 + byte) 0
      learned := Array.replicate count (32768 * 4096 + 1)
      outlooks := Array.replicate 640 32768
      weights := Array.replicate 10240 600 }
  let found : Found :=
    ⟨#[], 0, 0, 0, 0, 0, Array.replicate 262144 0⟩
  let all : Reader Found := (List.range archive.size).foldlM (fun found _ => found.step count) found
  (all.run rest).1.chars.toList.map Char.ofNat

end AgentFlow
