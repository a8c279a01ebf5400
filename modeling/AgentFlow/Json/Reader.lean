import AgentFlow.Json.Value
import AgentFlow.Number.Numeral

/-!
# Reading JSON text

A recursive reader of the JSON grammar, with three spellings of numbers that are not finite.  A
repeated key keeps its first place and its last value.  Every reader returns what is left of the
text, which is shorter; a failure remembers how much was left, which fixes its position.  An escape
for the first half of a surrogate pair is joined with a second half that follows at once.
-/

namespace AgentFlow.Json

inductive SyntaxFault where
  | expectedValue
  | expectedKey
  | expectedColon
  | expectedComma
  | extraData
  | unterminatedString
  | controlCharacter
  | badEscape
  | badUnicodeEscape
  | byteOrderMark
deriving DecidableEq, Repr

def SyntaxFault.message : SyntaxFault → Text
  | expectedValue => "Expecting value"
  | expectedKey => "Expecting property name enclosed in double quotes"
  | expectedColon => "Expecting ':' delimiter"
  | expectedComma => "Expecting ',' delimiter"
  | extraData => "Extra data"
  | unterminatedString => "Unterminated string starting at"
  | controlCharacter => "Invalid control character at"
  | badEscape => "Invalid \\escape"
  | badUnicodeEscape => "Invalid \\uXXXX escape"
  | byteOrderMark => "Unexpected UTF-8 BOM (decode using utf-8-sig)"

/-- Why reading stops: a fault with the number of code points left from it on, or an integer with
more digits than the limit. -/
inductive ReadFailure where
  | fault (fault : SyntaxFault) (left : Nat)
  | tooManyDigits (count : Nat)
deriving DecidableEq, Repr

/-- Something read from the start of `s`: its value, what is left, and the fact that this is
shorter. -/
structure Taken (α : Type) (s : Text) where
  value : α
  rest : Text
  shorter : rest.length < s.length

abbrev Read (α : Type) (s : Text) := Except ReadFailure (Taken α s)

/-- Whether a code point may stand between the parts of a document. -/
def isSpacing (c : CodePoint) : Bool := c = ' ' || c = '\t' || c = '\n' || c = '\r'

def skipSpacing (s : Text) : Text := s.dropWhile isSpacing

theorem length_skipSpacing (s : Text) : (skipSpacing s).length ≤ s.length :=
  (List.dropWhile_sublist _).length_le

def simpleEscape? (c : CodePoint) : Option CodePoint :=
  if c = '"' ∨ c = '\\' ∨ c = '/' then some c
  else if c = 'b' then some '\x08'
  else if c = 'f' then some '\x0c'
  else if c = 'n' then some '\n'
  else if c = 'r' then some '\r'
  else if c = 't' then some '\t'
  else none

def joinSurrogates (high low : Nat) : CodePoint :=
  CodePoint.ofNat (0x10000 + (high - 0xD800) * 0x400 + (low - 0xDC00))

/-- The code point of a four-digit escape followed by `s`, and how much of `s` belongs to it: six
more code points when they complete a surrogate pair. -/
def unicodeEscape (n : Nat) (s : Text) : Except ReadFailure (CodePoint × Nat) :=
  match s with
  | back :: u :: a :: b :: c :: d :: _ :: _ =>
    if 0xD800 ≤ n ∧ n < 0xDC00 ∧ back = '\\' ∧ u = 'u' then
      match Text.hexValue? [a, b, c, d] with
      | none => .error (.fault .badUnicodeEscape (s.length - 1))
      | some low =>
        if 0xDC00 ≤ low ∧ low < 0xE000 then .ok (joinSurrogates n low, 6)
        else .ok (CodePoint.ofNat n, 0)
    else .ok (CodePoint.ofNat n, 0)
  | _ => .ok (CodePoint.ofNat n, 0)

theorem length_lt_of_drop {left rest : Text} {used : Nat}
    (shorter : left.length < (rest.drop used).length) : left.length < rest.length :=
  Nat.lt_of_lt_of_le shorter (List.drop_sublist used rest).length_le

/-- Reads the rest of a string, after its opening quotation mark; `quote` is how much was left at
that mark. -/
def readString (quote : Nat) (s : Text) : Read Text s :=
  match s with
  | [] => .error (.fault .unterminatedString quote)
  | c :: rest =>
    if c = '"' then .ok ⟨[], rest, by simp⟩
    else if c = '\\' then
      match rest with
      | [] => .error (.fault .unterminatedString quote)
      | e :: rest' =>
        if e = 'u' then
          match rest' with
          | h1 :: h2 :: h3 :: h4 :: next :: more =>
            match Text.hexValue? [h1, h2, h3, h4] with
            | none => .error (.fault .badUnicodeEscape (rest'.length + 1))
            | some n =>
              match unicodeEscape n (next :: more) with
              | .error failure => .error failure
              | .ok (point, used) => do
                let ⟨tail, left, shorter⟩ ← readString quote ((next :: more).drop used)
                return ⟨point :: tail, left, Nat.lt_add_right 6 (length_lt_of_drop shorter)⟩
          | _ => .error (.fault .badUnicodeEscape (rest'.length + 1))
        else
          match simpleEscape? e with
          | none => .error (.fault .badEscape (rest'.length + 2))
          | some point => do
            let ⟨tail, left, shorter⟩ ← readString quote rest'
            return ⟨point :: tail, left, Nat.lt_add_right 2 shorter⟩
    else if c.toNat < 0x20 then .error (.fault .controlCharacter (rest.length + 1))
    else do
      let ⟨tail, left, shorter⟩ ← readString quote rest
      return ⟨c :: tail, left, Nat.lt_add_right 1 shorter⟩
termination_by s.length
decreasing_by all_goals (simp; try omega)

def isAsciiDigit (c : CodePoint) : Bool := 0x30 ≤ c.toNat && c.toNat ≤ 0x39

def digitsValue (digits : Text) : Nat :=
  digits.foldl (fun n c => n * 10 + (c.toNat - 0x30)) 0

/-- The parts of a number's text: sign, whole digits, fraction digits and exponent. -/
structure NumberParts where
  negative : Bool
  whole : Text
  fraction : Option Text
  exponent : Option Int

def NumberParts.value (parts : NumberParts) : Except ReadFailure Json :=
  match parts.fraction, parts.exponent with
  | none, none =>
    if Numeral.digitLimit < parts.whole.length then .error (.tooManyDigits parts.whole.length)
    else
      let magnitude : Int := digitsValue parts.whole
      .ok (.int (if parts.negative then -magnitude else magnitude))
  | fraction, exponent =>
    let places := fraction.getD []
    .ok (.float (Binary64.ofDecimal parts.negative (digitsValue (parts.whole ++ places))
      (exponent.getD 0 - places.length)))

/-- The fraction at the start of a text, a point and at least one digit, and what follows it. -/
def readFraction (s : Text) : Option Text × Text :=
  match s with
  | point :: rest =>
    let digits := rest.takeWhile isAsciiDigit
    if point = '.' ∧ digits ≠ [] then (some digits, rest.dropWhile isAsciiDigit) else (none, s)
  | [] => (none, s)

/-- The exponent at the start of a text, a letter, an optional sign and at least one digit, and what
follows it. -/
def readExponent (s : Text) : Option Int × Text :=
  match s with
  | letter :: rest =>
    if letter = 'e' ∨ letter = 'E' then
      let (negative, unsigned) : Bool × Text := match rest with
        | sign :: more =>
          if sign = '-' then (true, more) else if sign = '+' then (false, more) else (false, rest)
        | [] => (false, rest)
      let digits := unsigned.takeWhile isAsciiDigit
      if digits = [] then (none, s)
      else
        let magnitude : Int := digitsValue digits
        (some (if negative then -magnitude else magnitude), unsigned.dropWhile isAsciiDigit)
    else (none, s)
  | [] => (none, s)

/-- The whole digits at the start of a text: a single zero, or digits that start with another. -/
def readWhole (s : Text) : Text × Text :=
  match s with
  | c :: rest =>
    if c = '0' then ([c], rest) else (s.takeWhile isAsciiDigit, s.dropWhile isAsciiDigit)
  | [] => ([], [])

theorem length_readFraction (s : Text) : (readFraction s).2.length ≤ s.length := by
  cases s with
  | nil => simp [readFraction]
  | cons c rest =>
    have shorter := (List.dropWhile_sublist (l := rest) isAsciiDigit).length_le
    simp only [readFraction]
    split <;> simp only [List.length_cons] <;> omega

theorem length_readExponent (s : Text) : (readExponent s).2.length ≤ s.length := by
  cases s with
  | nil => simp [readExponent]
  | cons c rest =>
    have same := (List.dropWhile_sublist (l := rest) isAsciiDigit).length_le
    cases rest with
    | nil => by_cases e : c = 'e' ∨ c = 'E' <;> simp [readExponent, e]
    | cons sign more =>
      have fewer := (List.dropWhile_sublist (l := more) isAsciiDigit).length_le
      simp only [readExponent]
      repeat' split
      all_goals simp_all <;> omega

theorem length_readWhole (s : Text) (found : (readWhole s).1 ≠ []) :
    (readWhole s).2.length < s.length := by
  cases s with
  | nil => simp [readWhole] at found
  | cons c rest =>
    by_cases zero : c = '0'
    · simp [readWhole, zero]
    · simp only [readWhole, zero, if_false] at found ⊢
      have digit : isAsciiDigit c = true := by
        by_cases digit : isAsciiDigit c = true
        · exact digit
        · simp [digit] at found
      have shorter := (List.dropWhile_sublist (l := rest) isAsciiDigit).length_le
      simp only [List.dropWhile_cons, digit, if_true, List.length_cons]
      omega

def readNumber (negative : Bool) (s : Text) (start : Nat) : Read Json s :=
  let whole := readWhole s
  if found : whole.1 = [] then .error (.fault .expectedValue start)
  else
    let fraction := readFraction whole.2
    let exponent := readExponent fraction.2
    match (NumberParts.mk negative whole.1 fraction.1 exponent.1).value with
    | .error failure => .error failure
    | .ok value => .ok ⟨value, exponent.2, by
        have first := length_readWhole s found
        have second := length_readFraction whole.2
        have third := length_readExponent fraction.2
        simp only [whole, fraction, exponent] at first second third ⊢
        omega⟩

def keywords : List (Text × Json) :=
  [("null", .null), ("true", .bool true), ("false", .bool false), ("NaN", .float .nan),
    ("Infinity", .float (.infinity false)), ("-Infinity", .float (.infinity true))]

def readScalar (s : Text) : Read Json s :=
  match keywords.find? fun (word, _) => s.startsWith word && !word.isEmpty with
  | some (word, value) =>
    if fits : (s.drop word.length).length < s.length then .ok ⟨value, s.drop word.length, fits⟩
    else .error (.fault .expectedValue s.length)
  | none =>
    match s with
    | sign :: rest =>
      if sign = '-' then do
        let ⟨value, left, shorter⟩ ← readNumber true rest s.length
        return ⟨value, left, by simp only [List.length_cons]; omega⟩
      else readNumber false (sign :: rest) s.length
    | [] => .error (.fault .expectedValue s.length)

mutual

def readValue (s : Text) : Read Json s :=
  match s with
  | [] => .error (.fault .expectedValue s.length)
  | c :: rest =>
    if c = '"' then do
      let ⟨value, left, shorter⟩ ← readString s.length rest
      return ⟨.str value, left, by simp only [List.length_cons]; omega⟩
    else if c = '[' then
      match opened : skipSpacing rest with
      | [] => .error (.fault .expectedValue 0)
      | d :: rest' =>
        have fits : (d :: rest').length ≤ rest.length := opened ▸ length_skipSpacing rest
        if d = ']' then .ok ⟨.arr [], rest', by simp only [List.length_cons] at fits ⊢; omega⟩
        else do
          let ⟨items, left, shorter⟩ ← readItems (d :: rest')
          return ⟨.arr items, left, by simp only [List.length_cons] at shorter fits ⊢; omega⟩
    else if c = '\x7b' then
      match opened : skipSpacing rest with
      | [] => .error (.fault .expectedKey 0)
      | d :: rest' =>
        have fits : (d :: rest').length ≤ rest.length := opened ▸ length_skipSpacing rest
        if d = '\x7d' then .ok ⟨.obj [], rest', by simp only [List.length_cons] at fits ⊢; omega⟩
        else do
          let ⟨entries, left, shorter⟩ ← readEntries [] (d :: rest')
          return ⟨.obj entries, left, by simp only [List.length_cons] at shorter fits ⊢; omega⟩
    else readScalar (c :: rest)
termination_by (s.length, 0)
decreasing_by
  all_goals simp_wf
  all_goals (simp only [List.length_cons] at fits; omega)

def readItems (s : Text) : Read (List Json) s := do
  let ⟨item, rest, shorter⟩ ← readValue s
  match after : skipSpacing rest with
  | [] => .error (.fault .expectedComma 0)
  | c :: rest' =>
    have fits : (c :: rest').length ≤ rest.length := after ▸ length_skipSpacing rest
    if c = ']' then
      return ⟨[item], rest', by simp only [List.length_cons] at shorter fits ⊢; omega⟩
    else if c = ',' then
      have next : (skipSpacing rest').length ≤ rest'.length := length_skipSpacing rest'
      let ⟨items, left, fewer⟩ ← readItems (skipSpacing rest')
      return ⟨item :: items, left, by simp only [List.length_cons] at shorter fits fewer ⊢; omega⟩
    else .error (.fault .expectedComma (c :: rest').length)
termination_by (s.length, 1)
decreasing_by
  · exact Prod.Lex.right _ (by decide)
  · simp only [List.length_cons] at shorter fits
    omega

/-- Reads the entries of an object up to and including its closing brace, adding to those read
before. -/
def readEntries (known : Entries) (s : Text) : Read Entries s :=
  match s with
  | [] => .error (.fault .expectedKey s.length)
  | quote :: body =>
    if quote = '"' then do
      let ⟨key, rest, first⟩ ← readString s.length body
      match colon : skipSpacing rest with
      | [] => .error (.fault .expectedColon 0)
      | c :: rest' =>
        have second : (c :: rest').length ≤ rest.length := colon ▸ length_skipSpacing rest
        if c = ':' then
          have third : (skipSpacing rest').length ≤ rest'.length := length_skipSpacing rest'
          let ⟨value, after, fourth⟩ ← readValue (skipSpacing rest')
          let entries := known.insert key value
          match closing : skipSpacing after with
          | [] => .error (.fault .expectedComma 0)
          | d :: more =>
            have fifth : (d :: more).length ≤ after.length := closing ▸ length_skipSpacing after
            if d = '\x7d' then
              return ⟨entries, more, by
                simp only [List.length_cons] at first second third fourth fifth ⊢; omega⟩
            else if d = ',' then
              have sixth : (skipSpacing more).length ≤ more.length := length_skipSpacing more
              let ⟨all, left, last⟩ ← readEntries entries (skipSpacing more)
              return ⟨all, left, by
                simp only [List.length_cons] at first second third fourth fifth sixth last ⊢; omega⟩
            else .error (.fault .expectedComma (d :: more).length)
        else .error (.fault .expectedColon (c :: rest').length)
    else .error (.fault .expectedKey s.length)
termination_by (s.length, 0)
decreasing_by
  all_goals simp_wf
  · simp only [List.length_cons] at first second third; omega
  · simp only [List.length_cons] at first second third fourth fifth sixth; omega

end

def readDecoded (s : Text) : Except ReadFailure Json := do
  let ⟨value, rest, _⟩ ← readValue (skipSpacing s)
  match skipSpacing rest with
  | [] => return value
  | more => .error (.fault .extraData more.length)

/-- Reads a whole document.  A text has no encoding, so a byte order mark has no place in it. -/
def read (s : Text) : Except ReadFailure Json :=
  if s.head? = some (CodePoint.ofNat 0xFEFF) then .error (.fault .byteOrderMark s.length)
  else readDecoded s

/-- The wording of a fault at a position of a document: line, column and offset. -/
def describeFault (document : Text) (fault : SyntaxFault) (left : Nat) : Text :=
  let offset := document.length - left
  let before := document.take offset
  let lineBreak : CodePoint := '\n'
  let line := before.count lineBreak + 1
  let column := (before.reverse.takeWhile (· ≠ lineBreak)).length + 1
  fault.message ++ ": line " ++ Text.ofNat line ++ " column " ++ Text.ofNat column ++
    " (char " ++ Text.ofNat offset ++ ")"

end AgentFlow.Json
