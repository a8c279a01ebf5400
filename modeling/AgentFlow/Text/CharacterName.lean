import AgentFlow.Text.Basic
import AgentFlow.Text.CharacterName.Table

/-!
# Characters by name

Finds the character that a name of the standard belongs to.  Most names are listed.  A few families
are named by their code points, and Hangul syllables by their parts.  Listed names may be written in
either case; the ideographs common to East Asia and the syllables in capital letters only.
-/

namespace AgentFlow.CharacterName

/-! ## Listed names -/

def words (name : List Char) : List (List Char) :=
  name.foldr (fun c split =>
    if c = ' ' then [] :: split
    else
      match split with
      | word :: rest => (c :: word) :: rest
      | [] => [[c]]) [[]]

/-- How a table goes on: a number of code points has no names, or a name follows.  It is the name
before it with other words in the place of its last ones, some of which may come back at the end, or
with the next number at its end. -/
inductive Step where
  | skip (count : List Char)
  | change (dropped : Nat) (text : List Char)
  | count

/-- The steps that a table spells.  A slash stands before the number of code points, in hexadecimal,
a small letter before the new words, where `b` drops one word, `c` two and so on, and a plus sign
for the next number. -/
def steps (table : List Char) : List Step :=
  (table.foldr (fun c (text, found) =>
    if c.isLower then ([], .change (c.toNat - 'a'.toNat) text :: found)
    else if c = '+' then ([], .count :: found)
    else if c = '/' then ([], .skip text :: found)
    else (c :: text, found)) ([], [])).2

def increased : List Char → List Char
  | [] => []
  | digit :: rest =>
    if digit = '9' then '0' :: increased rest else Char.ofNat (digit.toNat + 1) :: rest

/-- The name with other words in the place of its last ones.  A full stop after the new words brings
back one of those at the end. -/
def changed (name : List (List Char)) (dropped : Nat) (text : List Char) : List (List Char) :=
  let fresh := text.takeWhile (· ≠ '.')
  let back := text.length - fresh.length
  name.take (name.length - dropped) ++ (if fresh.isEmpty then [] else words fresh) ++
    name.drop (name.length - back)

/-- The code point that the steps of a table give to a name, from a code point and the name before
it on. -/
def find? (name : List (List Char)) (code : Nat) (before : List (List Char)) :
    List Step → Option Nat
  | [] => none
  | .skip count :: rest =>
    find? name (code + ((Text.ofChars count).hexValue?.getD 0)) before rest
  | .change dropped text :: rest =>
    let current := changed before dropped text
    if current = name then some code else find? name (code + 1) current rest
  | .count :: rest =>
    let current := before.dropLast ++ [(increased (before.getLastD []).reverse).reverse]
    if current = name then some code else find? name (code + 1) current rest

def alias? (name : Text) (entries : List Text) : Option Nat :=
  entries.findSome? fun entry =>
    match entry.splitOn '=' with
    | [known, code] => if known = name then code.hexValue? else none
    | _ => none

/-- The text of a table, with its first part, the words that characters beyond ASCII stand for, put
in their place. -/
def spelledOut (text : List Char) : List Char :=
  let (frequent, rest) := text.span (· ≠ '|')
  let known := (words frequent).toArray
  (rest.drop 1).flatMap fun c => if c.toNat < 128 then [c] else known.getD (c.toNat - 128) []

def codeOf? (table : Archive) (name : List Char) : Option Nat :=
  let (names, aliases) := (spelledOut table.unpack).span (· ≠ '|')
  (find? (words name) 0 [] (steps names)).or
    (alias? (Text.ofChars name) ((Text.ofChars (aliases.drop 1)).splitOn ';'))

/-! ## Names made from code points -/

def after? (start s : List Char) : Option (List Char) :=
  if start.isPrefixOf s then some (s.drop start.length) else none

def families : List (Nat × Nat × String) := [
  (0xF900, 0xFA6D, "CJK COMPATIBILITY IDEOGRAPH-"),
  (0xFA70, 0xFAD9, "CJK COMPATIBILITY IDEOGRAPH-"),
  (0x18B00, 0x18CD5, "KHITAN SMALL SCRIPT CHARACTER-"),
  (0x1B170, 0x1B2FB, "NUSHU CHARACTER-"),
  (0x2F800, 0x2FA1D, "CJK COMPATIBILITY IDEOGRAPH-")]

/-- The code point of a member of a family; it is spelled with as few digits as it takes, but four
at least. -/
def inFamily? (name : List Char) : Option Nat :=
  families.findSome? fun (first, last, start) => do
    let digits ← after? start.toList name
    let code ← (Text.ofChars digits).hexValue?
    if first ≤ code && code ≤ last && digits.length = (Nat.toDigits 16 code).length then some code
    else none

def ideographs : List (Nat × Nat) := [
  (0x3400, 0x4DBF), (0x4E00, 0x9FFF), (0x20000, 0x2A6DF), (0x2A700, 0x2B738), (0x2B740, 0x2B81D),
  (0x2B820, 0x2CEA1), (0x2CEB0, 0x2EBE0), (0x30000, 0x3134A)]

def ideographStart : List Char := "CJK UNIFIED IDEOGRAPH-".toList

def ideograph? (digits : List Char) : Option Nat := do
  let code ← (Text.ofChars digits).hexValue?
  if (digits.length = 4 || digits.length = 5) && !digits.any Char.isLower &&
      ideographs.any (fun (first, last) => first ≤ code && code ≤ last) then some code
  else none

/-! ## Syllables -/

def leads : List String :=
  ["G", "GG", "N", "D", "DD", "R", "M", "B", "BB", "S", "SS", "", "J", "JJ", "C", "K", "T", "P",
    "H"]

def vowels : List String :=
  ["A", "AE", "YA", "YAE", "EO", "E", "YEO", "YE", "O", "WA", "WAE", "OE", "YO", "U", "WEO", "WE",
    "WI", "YU", "EU", "YI", "I"]

def tails : List String :=
  ["", "G", "GG", "GS", "N", "NJ", "NH", "D", "L", "LG", "LM", "LB", "LS", "LT", "LP", "LH", "M",
    "B", "BS", "S", "SS", "NG", "J", "C", "K", "T", "P", "H"]

def longest? (names : List String) (s : List Char) : Option (Nat × List Char) :=
  let fitting := names.zipIdx.filter fun (name, _) => name.toList.isPrefixOf s
  (fitting.foldl (fun best (name, index) =>
    match best with
    | none => some (name, index)
    | some (known, _) => if known.length < name.length then some (name, index) else best)
    none).map fun (name, index) => (index, s.drop name.length)

def syllableStart : List Char := "HANGUL SYLLABLE ".toList

def syllable? (parts : List Char) : Option Nat := do
  let (lead, rest) ← longest? leads parts
  let (vowel, rest) ← longest? vowels rest
  let (tail, rest) ← longest? tails rest
  if rest.isEmpty then some (0xAC00 + (lead * 21 + vowel) * 28 + tail) else none

end CharacterName

open CharacterName

def Text.characterNamed? (name : Text) : Option Nat := do
  let chars ← name.toChars?
  match after? syllableStart chars, after? ideographStart chars with
  | some parts, _ => syllable? parts
  | none, some digits => ideograph? digits
  | none, none =>
    let capital := chars.map Char.toUpper
    (codeOf? table capital).or (inFamily? capital)

end AgentFlow
