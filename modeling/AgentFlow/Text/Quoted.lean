import AgentFlow.Text.Basic
import AgentFlow.Text.Printable

/-!
# Quoted text

Three ways to write a text between quotes.

* `shown` is for messages: apostrophes unless the text holds one and no quotation mark, with an
  escape for every character that is not printable.
* `doubleQuoted` is for data and generated code: quotation marks, with an escape for quotation
  marks, backslashes and the ASCII control characters, every other character standing for itself.
* `asciiQuoted` also escapes everything beyond ASCII, characters beyond the sixteen-bit range as a
  pair of surrogates.
-/

namespace AgentFlow

namespace CodePoint

def apostrophe : CodePoint := '\x27'

def quotation : CodePoint := '"'

def backslash : CodePoint := '\\'

def shownIn (quote c : CodePoint) : Text :=
  if c = quote ∨ c = backslash then [backslash, c]
  else if c = '\n' then [backslash, 'n']
  else if c = '\r' then [backslash, 'r']
  else if c = '\t' then [backslash, 't']
  else if c.isPrintable then [c]
  else if c.toNat < 0x100 then backslash :: 'x' :: Text.ofHex 2 c.toNat
  else if c.toNat < 0x10000 then backslash :: 'u' :: Text.ofHex 4 c.toNat
  else backslash :: 'U' :: Text.ofHex 8 c.toNat

def unit16Escape (n : Nat) : Text := backslash :: 'u' :: Text.ofHex 4 n

def encoded (c : CodePoint) : Text :=
  if c = quotation ∨ c = backslash then [backslash, c]
  else if c = '\n' then [backslash, 'n']
  else if c = '\r' then [backslash, 'r']
  else if c = '\t' then [backslash, 't']
  else if c = '\x08' then [backslash, 'b']
  else if c = '\x0c' then [backslash, 'f']
  else if c.toNat < 0x20 then unit16Escape c.toNat
  else [c]

def asciiEncoded (c : CodePoint) : Text :=
  let n := c.toNat
  if n < 0x7F then c.encoded
  else if n < 0x10000 then unit16Escape n
  else
    unit16Escape (0xD800 + (n - 0x10000) / 0x400) ++
      unit16Escape (0xDC00 + (n - 0x10000) % 0x400)

end CodePoint

namespace Text

def shownQuote (t : Text) : CodePoint :=
  if t.contains CodePoint.apostrophe && !t.contains CodePoint.quotation
  then CodePoint.quotation else CodePoint.apostrophe

def shown (t : Text) : Text :=
  let quote := t.shownQuote
  quote :: (t.flatMap (CodePoint.shownIn quote) ++ [quote])

def doubleQuoted (t : Text) : Text :=
  CodePoint.quotation :: (t.flatMap CodePoint.encoded ++ [CodePoint.quotation])

def asciiQuoted (t : Text) : Text :=
  CodePoint.quotation :: (t.flatMap CodePoint.asciiEncoded ++ [CodePoint.quotation])

end Text

/-! ## Surrogates in text

A text with a surrogate has no UTF-8 encoding.  The first run of surrogates is what a failed
encoding reports; a channel that must not fail writes an escape or replacement characters in the
place of each.
-/

/-- A run of surrogates: its first and last position in a text, and its first code point. -/
structure SurrogateRun where
  first : Nat
  last : Nat
  sample : CodePoint
deriving DecidableEq, Repr

def SurrogateRun.message (run : SurrogateRun) : Text :=
  "'utf-8' codec can't encode character" ++
    (if run.first = run.last then
      " " ++ Text.shown [run.sample] ++ " in position " ++ Text.ofNat run.first
    else "s in position " ++ Text.ofNat run.first ++ "-" ++ Text.ofNat run.last) ++
    ": surrogates not allowed"

namespace Text

def surrogateRun? (t : Text) : Option SurrogateRun :=
  match t.dropWhile (!·.isSurrogate) with
  | [] => none
  | c :: rest =>
    let first := (t.takeWhile (!·.isSurrogate)).length
    some { first, last := first + (rest.takeWhile CodePoint.isSurrogate).length, sample := c }

def hasSurrogate (t : Text) : Bool := t.any CodePoint.isSurrogate

/-- A text with replacement characters for every surrogate: three, one for each byte that a code
point of its size takes. -/
def replaceSurrogates (t : Text) : Text :=
  t.flatMap fun c => if c.isSurrogate then List.replicate 3 (CodePoint.ofNat 0xFFFD) else [c]

def escapeSurrogates (t : Text) : Text :=
  t.flatMap fun c => if c.isSurrogate then CodePoint.unit16Escape c.toNat else [c]

end Text

end AgentFlow
