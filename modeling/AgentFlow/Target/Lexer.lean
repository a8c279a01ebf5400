import AgentFlow.Number.Numeral
import AgentFlow.Target.Keyword
import AgentFlow.Target.Syntax
import AgentFlow.Text.Identifier
import AgentFlow.Text.NormalForm

/-!
# Tokens of the generated language

Splits the text of an expression into names, keywords, numbers, strings and operators.  A line break
ends the expression unless brackets are open or a backslash stands before it; blank lines and
comments are skipped, and no other line outside brackets may be indented.  A name is kept in its
normal form, but a keyword has one spelling.
-/

namespace AgentFlow.Target

/-- A string literal as it stands in the text: its prefix letters and what is between its quotes. -/
structure StringToken where
  raw : Bool
  bytes : Bool
  format : Bool
  body : List Char
deriving DecidableEq, Repr

inductive Token where
  | name (id : Text)
  | keyword (word : String)
  | number (value : Constant)
  | string (token : StringToken)
  | op (text : String)
  | newline
deriving DecidableEq, Repr

def operators : List String :=
  ["**=", "//=", ">>=", "<<=", "...", "**", "//", ">>", "<<", "==", "!=", "<=", ">=", "->", ":=",
    "+=", "-=", "*=", "/=", "%=", "@=", "&=", "|=", "^=", "+", "-", "*", "/", "%", "@", "&", "|",
    "^", "~", "<", ">", "(", ")", "[", "]", "\x7b", "\x7d", ",", ":", ".", ";", "="]

/-- Whether a name may start with a character; characters beyond ASCII are judged later. -/
def startsName (c : Char) : Bool := c.isAlpha || c = '_' || 128 ≤ c.toNat

def continuesName (c : Char) : Bool := c.isAlphanum || c = '_' || 128 ≤ c.toNat

/-! ## Numbers -/

/-- A run of digits with single underscores between them: the digits and what follows. -/
def digitRun (isDigit : Char → Bool) : List Char → Option (List Char × List Char)
  | [] => some ([], [])
  | c :: rest =>
    if isDigit c then (digitRun isDigit rest).map fun (digits, left) => (c :: digits, left)
    else if c = '_' then
      match rest with
      | d :: _ => if isDigit d then digitRun isDigit rest else none
      | [] => none
    else some ([], c :: rest)

def numeralValue (base : Nat) (digits : List Char) : Nat :=
  digits.foldl (fun n c =>
    n * base + (if c.isDigit then c.toNat - 48 else c.toLower.toNat - 87)) 0

/-- Whether a number may end before a text: no name goes on there, except that a few words may
follow at once. -/
def endsNumber (s : List Char) : Bool :=
  match s with
  | c :: _ =>
    !continuesName c || ["and", "else", "for", "if", "in", "is", "or", "not"].any fun word =>
      word.toList.isPrefixOf s
  | [] => true

/-- A number in a base other than ten, after its two-character mark. -/
def basedNumber (base : Nat) (isDigit : Char → Bool) (s : List Char) :
    Option (Constant × List Char) := do
  let (digits, left) ← digitRun isDigit s
  if digits.isEmpty || (left.headD ' ').isDigit || !endsNumber left then none
  else some (.int (numeralValue base digits), left)

/-- The fraction part after whole digits: whether there is a point, its digits and what follows. -/
def fractionPart (s : List Char) : Option (Bool × List Char × List Char) :=
  match s with
  | '.' :: rest =>
    if (rest.headD ' ').isDigit then
      (digitRun Char.isDigit rest).map fun (digits, left) => (true, digits, left)
    else some (true, [], rest)
  | _ => some (false, [], s)

def exponentPart (s : List Char) : Option (Option Int × List Char) :=
  match s with
  | e :: rest =>
    if e = 'e' ∨ e = 'E' then
      match rest with
      | '+' :: more =>
        if (more.headD ' ').isDigit then
          (digitRun Char.isDigit more).map fun (digits, left) =>
            (some (numeralValue 10 digits : Int), left)
        else none
      | '-' :: more =>
        if (more.headD ' ').isDigit then
          (digitRun Char.isDigit more).map fun (digits, left) =>
            (some (-(numeralValue 10 digits : Int)), left)
        else none
      | _ =>
        if (rest.headD ' ').isDigit then
          (digitRun Char.isDigit rest).map fun (digits, left) =>
            (some (numeralValue 10 digits : Int), left)
        else some (none, s)
    else some (none, s)
  | [] => some (none, s)

def decimalNumber (s : List Char) : Option (Constant × List Char) := do
  let (whole, afterWhole) ←
    if (s.headD ' ').isDigit then digitRun Char.isDigit s else some ([], s)
  let (point, fraction, afterFraction) ← fractionPart afterWhole
  let (exponent, afterExponent) ← exponentPart afterFraction
  let value := Binary64.ofDecimal false (numeralValue 10 (whole ++ fraction))
    (exponent.getD 0 - fraction.length)
  match afterExponent with
  | j :: left =>
    if j = 'j' ∨ j = 'J' then
      if endsNumber left then some (.imaginary value, left) else none
    else plain whole point exponent value afterExponent
  | [] => plain whole point exponent value afterExponent
where
  plain (whole : List Char) (point : Bool) (exponent : Option Int) (value : Binary64)
      (left : List Char) : Option (Constant × List Char) :=
    if !endsNumber left then none
    else if point || exponent.isSome then some (.float value, left)
    else if whole.all (· = '0') then some (.int 0, left)
    else if whole.head? = some '0' || Numeral.digitLimit < whole.length then none
    else some (.int (numeralValue 10 whole), left)

def readNumber (s : List Char) : Option (Constant × List Char) :=
  match s with
  | '0' :: mark :: rest =>
    if mark = 'x' ∨ mark = 'X' then
      basedNumber 16 (fun c => c.isDigit || ('a' ≤ c.toLower && c.toLower ≤ 'f')) rest
    else if mark = 'o' ∨ mark = 'O' then basedNumber 8 (fun c => '0' ≤ c && c ≤ '7') rest
    else if mark = 'b' ∨ mark = 'B' then basedNumber 2 (fun c => c = '0' || c = '1') rest
    else decimalNumber s
  | _ => decimalNumber s

/-! ## Strings -/

def stringStart? (s : List Char) : Option (StringToken × Char × List Char) :=
  let isQuote (c : Char) : Bool := c = '"' || c = '\x27'
  let flags (letters : List Char) : Option StringToken :=
    match letters.map Char.toLower with
    | [] => some ⟨false, false, false, []⟩
    | ['u'] => some ⟨false, false, false, []⟩
    | ['r'] => some ⟨true, false, false, []⟩
    | ['b'] => some ⟨false, true, false, []⟩
    | ['f'] => some ⟨false, false, true, []⟩
    | ['b', 'r'] => some ⟨true, true, false, []⟩
    | ['r', 'b'] => some ⟨true, true, false, []⟩
    | ['f', 'r'] => some ⟨true, false, true, []⟩
    | ['r', 'f'] => some ⟨true, false, true, []⟩
    | _ => none
  match s with
  | a :: rest =>
    if isQuote a then (flags []).map (·, a, rest)
    else match rest with
      | b :: rest' =>
        if isQuote b then (flags [a]).map (·, b, rest')
        else match rest' with
          | c :: rest'' => if isQuote c then (flags [a, b]).map (·, c, rest'') else none
          | [] => none
      | [] => none
  | [] => none

/-- The contents of a string up to a closing quote, or three of them, and what follows; a backslash
keeps the character after it from closing the string. -/
def stringBody (quote : Char) (triple : Bool) : List Char → Option (List Char × List Char)
  | [] => none
  | '\\' :: c :: rest =>
    (stringBody quote triple rest).map fun (body, left) => ('\\' :: c :: body, left)
  | c :: rest =>
    if c = quote then
      if triple then
        match rest with
        | d :: e :: left =>
          if d = quote ∧ e = quote then some ([], left)
          else (stringBody quote triple rest).map fun (body, left) => (c :: body, left)
        | _ => none
      else some ([], rest)
    else if c = '\n' ∧ !triple then none
    else (stringBody quote triple rest).map fun (body, left) => (c :: body, left)

def readString? (s : List Char) : Option (Option (StringToken × List Char)) :=
  (stringStart? s).map fun (token, quote, rest) =>
    match rest with
    | a :: b :: left =>
      if a = quote ∧ b = quote then
        (stringBody quote true left).map fun (body, left) => ({ token with body }, left)
      else (stringBody quote false rest).map fun (body, left) => ({ token with body }, left)
    | _ => (stringBody quote false rest).map fun (body, left) => ({ token with body }, left)

/-! ## The token list -/

def isGap (c : Char) : Bool := c = ' ' || c = '\t' || c = '\x0c'

/-- Whether a column other than the first is reached after further gaps; a form feed goes back to
the first column. -/
def columnAfter (moved : Bool) (gaps : List Char) : Bool :=
  gaps.foldl (fun _ c => c ≠ '\x0c') moved

/-- Whether a line outside brackets is indented, and its code.  A backslash joins a line to the next
one, and a column reached before it counts for what follows.  The text must not end there. -/
def lineStart (fuel : Nat) (indented moved : Bool) (s : List Char) : Option (Bool × List Char) :=
  match fuel with
  | 0 => none
  | fuel + 1 =>
    let moved := columnAfter moved (s.takeWhile isGap)
    match s.dropWhile isGap with
    | ['\\', '\n'] => none
    | '\\' :: '\n' :: rest => lineStart fuel (indented || moved) moved rest
    | code => some (indented || moved, code)

def readToken (s : List Char) : Option (Token × List Char) :=
  match s with
  | [] => none
  | c :: rest =>
    match readString? s with
    | some string => string.map fun (token, left) => (.string token, left)
    | none =>
      if startsName c then
        let name := s.takeWhile continuesName
        let left := s.dropWhile continuesName
        let word := String.ofList name
        if word ∈ keywords then some (.keyword word, left)
        else if (Text.ofChars name).isIdentifier then
          some (.name (Text.ofChars name).normalForm, left)
        else none
      else if c.isDigit || (c = '.' && (rest.headD ' ').isDigit) then
        (readNumber s).map fun (value, left) => (.number value, left)
      else
        (operators.find? fun op => op.toList.isPrefixOf s).map fun op =>
          (.op op, s.drop op.length)

def nextDepth (depth : Nat) : Token → Nat
  | .op text =>
    if text ∈ ["(", "[", "\x7b"] then depth + 1
    else if text ∈ [")", "]", "\x7d"] then depth - 1
    else depth
  | _ => depth

/-- The tokens of a text.  `fresh` says that a line starts outside brackets. -/
def tokensFrom (fuel : Nat) (depth : Nat) (fresh : Bool) (s : List Char) : Option (List Token) :=
  match fuel with
  | 0 => none
  | fuel + 1 => do
    let (indented, code) ←
      if fresh then lineStart (s.length + 1) false false s else some (false, s.dropWhile isGap)
    match code with
    | '\n' :: rest =>
      let tokens ← tokensFrom fuel depth (depth = 0) rest
      return if fresh || 0 < depth then tokens else .newline :: tokens
    | '#' :: rest => tokensFrom fuel depth fresh (rest.dropWhile (· ≠ '\n'))
    | '\\' :: '\n' :: rest => if rest.isEmpty then none else tokensFrom fuel depth false rest
    | _ =>
      if indented then none
      else if code.isEmpty then if depth = 0 then some [] else none
      else
        let (token, left) ← readToken code
        let tokens ← tokensFrom fuel (nextDepth depth token) false left
        return token :: tokens

/-- A text with every kind of line break written as one character. -/
def unifyBreaks : List Char → List Char
  | [] => []
  | '\r' :: '\n' :: rest => '\n' :: unifyBreaks rest
  | '\r' :: rest => '\n' :: unifyBreaks rest
  | c :: rest => c :: unifyBreaks rest

/-- The tokens of a text; there is one step per character at most. -/
def tokenize (s : List Char) : Option (List Token) :=
  tokensFrom (s.length + 1) 0 true (unifyBreaks s)

end AgentFlow.Target
