import AgentFlow.Number.Numeral

/-!
# Parts of regular expressions

A pattern is read sign by sign: a character, or a backslash with the character after it.  A text
that is no pattern is malformed.  A pattern may also be out of reach: a number in it is too large,
its flags exclude each other, or it looks back too far.  Of what it matches only the width matters,
since what is looked for backwards must have a fixed one.
-/

namespace AgentFlow.Schema.Regex

inductive Defect where
  | malformed
  | tooManyRepetitions
  | tooManyDigits (count : Nat)
  | codePointTooLarge
  | clashingFlags
  | tooWide
deriving DecidableEq, Repr

def Defect.message : Defect → Text
  | malformed => "malformed pattern"
  | tooManyRepetitions => "the repetition number is too large"
  | tooManyDigits count => Numeral.tooManyDigits count
  | codePointTooLarge => "Python int too large to convert to C int"
  | clashingFlags => "ASCII and UNICODE flags are incompatible"
  | tooWide => "invalid SRE code"

abbrev Reading (α : Type) := Except Defect α

def malformed {α : Type} : Reading α := .error .malformed

/-! ## Signs -/

/-- A character of a pattern, a character after a backslash, or a backslash at the very end. -/
inductive Sign where
  | plain (c : CodePoint)
  | escaped (c : CodePoint)
  | dangling
deriving DecidableEq, Repr

def signs : Text → List Sign
  | [] => []
  | [c] => if c = '\\' then [.dangling] else [.plain c]
  | c :: next :: rest =>
    if c = '\\' then .escaped next :: signs rest else .plain c :: signs (next :: rest)

def Sign.is (sign : Sign) (c : Char) : Bool := sign = .plain c

def startsWith (c : Char) (signs : List Sign) : Bool := signs.head?.any (·.is c)

/-- Finds a defect at a place.  The sign after the place has been looked at by then, and a backslash
there that belongs to nothing comes first. -/
def defectBefore {α : Type} (defect : Defect) (left : List Sign) : Reading α :=
  if left.head? = some .dangling then malformed else .error defect

def isOctal (c : CodePoint) : Bool := 0x30 ≤ c.toNat && c.toNat ≤ 0x37

def isDecimal (c : CodePoint) : Bool := 0x30 ≤ c.toNat && c.toNat ≤ 0x39

def isAsciiLetter (c : CodePoint) : Bool :=
  (0x41 ≤ c.toNat && c.toNat ≤ 0x5A) || (0x61 ≤ c.toNat && c.toNat ≤ 0x7A)

def digitsValue (base : Nat) (digits : Text) : Nat :=
  digits.foldl (fun n c => n * base + (c.hexValue?).getD 0) 0

/-- Takes at most a number of plain signs that satisfy a condition. -/
def takePlain (limit : Nat) (accepts : CodePoint → Bool) : List Sign → Text × List Sign
  | .plain c :: rest =>
    match limit with
    | 0 => ([], .plain c :: rest)
    | limit + 1 =>
      if accepts c then
        let (taken, left) := takePlain limit accepts rest
        (c :: taken, left)
      else ([], .plain c :: rest)
  | signs => ([], signs)

def takeUntil (closing : Char) : List Sign → Reading (Text × List Sign)
  | [] => malformed
  | sign :: rest =>
    if sign.is closing then .ok ([], rest)
    else do
      let (taken, left) ← takeUntil closing rest
      match sign with
      | .plain c => .ok (c :: taken, left)
      | .escaped c => .ok (('\\' : CodePoint) :: c :: taken, left)
      | .dangling => malformed

def takeName (closing : Char) (signs : List Sign) : Reading (Text × List Sign) := do
  let (name, left) ← takeUntil closing signs
  if name.isEmpty then malformed else .ok (name, left)

def skipLine : List Sign → Reading (List Sign)
  | [] => .ok []
  | .dangling :: _ => malformed
  | sign :: rest => if sign.is '\n' then .ok rest else skipLine rest

/-! ## Widths -/

/-- The number that stands for any number of repetitions. -/
def unbounded : Nat := 4294967295

/-- The least and the greatest number of characters that a pattern matches. -/
structure Width where
  least : Nat
  most : Nat
deriving DecidableEq, Repr

namespace Width

def zero : Width := ⟨0, 0⟩

def one : Width := ⟨1, 1⟩

def add (a b : Width) : Width :=
  ⟨min (a.least + b.least) (unbounded - 1), min (a.most + b.most) unbounded⟩

def choice (a b : Width) : Width := ⟨min a.least b.least, max a.most b.most⟩

def times (w : Width) (least most : Nat) : Width :=
  ⟨min (w.least * least) (unbounded - 1), min (w.most * most) unbounded⟩

def isFixed (w : Width) : Bool := w.least = w.most

/-- Whether a fixed width is too large to look back. -/
def isOutOfReach (w : Width) : Bool := w.isFixed && 0x80000000 ≤ w.least

end Width

/-- What the last piece of a sequence is: nothing, a place, a repetition, or something else. -/
inductive Piece where
  | nothing
  | place
  | repetition (width : Width)
  | item (width : Width)
deriving DecidableEq, Repr

def Piece.width : Piece → Width
  | nothing => .zero
  | place => .zero
  | repetition width => width
  | item width => width

/-! ## What is known of a pattern -/

/-- What is known while a pattern is read: the number of the next group, the closed groups with
their widths, the names of groups, the groups that conditions mention, the number of the first group
inside the outermost look backwards, the flags for the whole pattern, whether something is repeated,
and the widths of what is looked for backwards. -/
structure Context where
  next : Nat := 1
  closed : List (Nat × Width) := []
  names : List (Text × Nat) := []
  mentioned : List Nat := []
  behind : Option Nat := none
  flags : List Char := []
  repeats : Bool := false
  backward : List Width := []

/-- The width of a group that can be referred to. -/
def Context.refer (context : Context) (group : Nat) : Reading Width :=
  match context.closed.lookup group with
  | none => malformed
  | some width =>
    match context.behind with
    | none => .ok width
    | some first => if group < first then .ok width else malformed

/-- Judges a pattern that has been read up to given signs.  The order of the tests is the order in
which defects come to light. -/
def Context.verdict (context : Context) (left : List Sign) : Option Defect :=
  if 'a' ∈ context.flags && 'u' ∈ context.flags then some .clashingFlags
  else if !left.isEmpty || context.mentioned.any (context.next ≤ ·) then some .malformed
  else if 't' ∈ context.flags && context.repeats then some .malformed
  else if context.backward.any (!·.isFixed) then some .malformed
  else if context.backward.any Width.isOutOfReach then some .tooWide
  else none

end AgentFlow.Schema.Regex
