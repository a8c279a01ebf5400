import AgentFlow.Text.Ranges

/-!
# Code points and text

Documents and expressions may hold lone surrogates, since an escape can spell one.  A code point is
therefore a Unicode scalar value or a surrogate, and a text is a list of code points.  String
literals coerce to text, so templates read as usual.
-/

namespace AgentFlow

inductive CodePoint where
  | scalar (char : Char)
  | surrogate (offset : Fin 2048)
deriving DecidableEq, Inhabited, Repr

namespace CodePoint

instance : Coe Char CodePoint := ⟨.scalar⟩

def toNat : CodePoint → Nat
  | .scalar char => char.toNat
  | .surrogate offset => 0xD800 + offset

/-- The code point with a given number; numbers beyond the last code point give NUL. -/
def ofNat (n : Nat) : CodePoint :=
  if n < 0xD800 then .scalar (Char.ofNat n)
  else if high : n - 0xD800 < 2048 then .surrogate ⟨n - 0xD800, high⟩
  else .scalar (Char.ofNat n)

def isSurrogate : CodePoint → Bool
  | .scalar _ => false
  | .surrogate _ => true

def toChar? : CodePoint → Option Char
  | .scalar char => some char
  | .surrogate _ => none

@[simp] theorem toChar?_scalar (char : Char) : (scalar char).toChar? = some char := rfl

end CodePoint

abbrev Text := List CodePoint

namespace Text

def ofChars (chars : List Char) : Text := chars.map .scalar

def ofString (s : String) : Text := ofChars s.toList

instance : Coe String Text := ⟨ofString⟩

instance : Coe (List String) (List Text) := ⟨List.map ofString⟩

/-- Membership in a list of texts is decided by comparing with each of them. -/
instance instDecidableMem (t : Text) (texts : List Text) : Decidable (t ∈ texts) :=
  List.instDecidableMemOfLawfulBEq t texts

def toChars? (t : Text) : Option (List Char) := t.mapM CodePoint.toChar?

/-- The string with the code points of a text, surrogates being shown as replacement characters. -/
def toDisplay (t : Text) : String :=
  String.ofList (t.map fun c => c.toChar?.getD (Char.ofNat 0xFFFD))

end Text

end AgentFlow

namespace AgentFlow.CodePoint

/-! ## ASCII characters

Digits and letters of ASCII, for formats that know no others.
-/

def isAsciiDigit (c : CodePoint) : Bool := 0x30 ≤ c.toNat && c.toNat ≤ 0x39

def lowerAscii (c : CodePoint) : CodePoint :=
  let n := c.toNat
  if 0x41 ≤ n ∧ n ≤ 0x5A then CodePoint.ofNat (n + 32) else c

end AgentFlow.CodePoint

namespace AgentFlow

/-! ## Hexadecimal digits

Escape sequences spell code points with ASCII hexadecimal digits of either case.
-/

def CodePoint.hexValue? (c : CodePoint) : Option Nat :=
  let n := c.toNat
  if 0x30 ≤ n ∧ n ≤ 0x39 then some (n - 0x30)
  else if 0x61 ≤ n ∧ n ≤ 0x66 then some (n - 0x61 + 10)
  else if 0x41 ≤ n ∧ n ≤ 0x46 then some (n - 0x41 + 10)
  else none

def Text.hexValue? (digits : Text) : Option Nat :=
  digits.foldlM (fun n c => c.hexValue?.map (n * 16 + ·)) 0

/-! ## Blank characters

The code points that count as white space: spaces, tabs and line breaks of all scripts, among them
the four ASCII information separators, the next-line control, the no-break spaces and the
ideographic space.  Zero-width characters do not count.
-/

namespace Text

def blankRanges : Ranges := [
  (0x9, 0xD), (0x1C, 0x20), (0x85, 0x85), (0xA0, 0xA0), (0x1680, 0x1680), (0x2000, 0x200A),
  (0x2028, 0x2029), (0x202F, 0x202F), (0x205F, 0x205F), (0x3000, 0x3000)]

end Text

def CodePoint.isBlank (c : CodePoint) : Bool :=
  Text.blankRanges.contains c.toNat

/-- Whether a code point is white space around a number: the information separators are not. -/
def CodePoint.isMargin (c : CodePoint) : Bool :=
  c.isBlank && !(0x1C ≤ c.toNat && c.toNat ≤ 0x1F)

/-! ## Plain names

Names of tools and symbols are plain: an ASCII letter or underscore followed by ASCII letters,
digits and underscores.  One line break may stand after the name.
-/

namespace CodePoint

def startsPlainName (c : CodePoint) : Bool :=
  let n := c.toNat
  (0x41 ≤ n && n ≤ 0x5A) || (0x61 ≤ n && n ≤ 0x7A) || n = 0x5F

def continuesPlainName (c : CodePoint) : Bool := c.startsPlainName || c.isAsciiDigit

end CodePoint

namespace Text

def dropLineBreak (t : Text) : Text :=
  if t.getLast? = some ('\n' : CodePoint) then t.dropLast else t

/-- Whether a text is a plain name, possibly with one line break after it. -/
def isPlainName (t : Text) : Bool :=
  match t.dropLineBreak with
  | [] => false
  | c :: rest => c.startsPlainName && rest.all CodePoint.continuesPlainName

end Text

end AgentFlow
