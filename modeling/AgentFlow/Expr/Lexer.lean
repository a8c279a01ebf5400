import AgentFlow.Expr.Fault
import AgentFlow.Text.Letter

/-!
# Splitting an expression into tokens

White space separates tokens.  A number is a run of digits of any script, optionally with a point
and more digits; a string is quoted by either quote and may hold escapes; a word starts with a
letter or an underscore; anything else must be a symbol.  Each lexeme is the longest at its
position.
-/

namespace AgentFlow.Expr

def decimalDigits? (digits : Text) : Option Nat :=
  digits.foldlM (fun n c => (c.decimalValue?).map (n * 10 + ·)) 0

/-- Digits with a value are decimal, and the value has no more digits than they are. -/
theorem decimalDigits?_spec {digits : Text} {value : Nat}
    (read : decimalDigits? digits = some value) :
    (∀ c ∈ digits, c.isDecimal = true) ∧ value < Nat.pow 10 digits.length := by
  have bound : ∀ (digits : Text) (start value : Nat),
      digits.foldlM (fun n c => (c.decimalValue?).map (n * 10 + ·)) start = some value →
        (∀ c ∈ digits, c.isDecimal = true) ∧ value < (start + 1) * 10 ^ digits.length := by
    intro digits
    induction digits with
    | nil =>
        intro start value read
        cases read
        exact ⟨nofun, by simp⟩
    | cons c rest ih =>
        intro start value read
        rw [List.foldlM_cons] at read
        cases digit : c.decimalValue? with
        | none => simp [digit] at read
        | some d =>
            have small : d < 10 := CodePoint.lt_of_decimalValue? digit
            have isDecimal : c.isDecimal = true := by simp [CodePoint.isDecimal, digit]
            rw [digit] at read
            obtain ⟨decimals, below⟩ := ih _ _ read
            refine ⟨List.forall_mem_cons.2 ⟨isDecimal, decimals⟩, ?_⟩
            calc value < (start * 10 + d + 1) * 10 ^ rest.length := below
              _ ≤ (start + 1) * 10 * 10 ^ rest.length := Nat.mul_le_mul_right _ (by omega)
              _ = (start + 1) * 10 ^ (c :: rest).length := by
                rw [List.length_cons, Nat.pow_succ, Nat.mul_comm (10 ^ rest.length), Nat.mul_assoc]
  obtain ⟨decimals, below⟩ := bound digits 0 value read
  exact ⟨decimals, by simpa using below⟩

/-- An integer has no more digits than the text that it is read from, or than zero has. -/
theorem short_of_decimalDigits? {digits : Text} {value : Nat}
    (read : decimalDigits? digits = some value)
    (few : ¬Numeral.digitLimit < (digits.takeWhile CodePoint.isDecimal).length) :
    (Nat.toDigits 10 value).length ≤ Numeral.digitLimit := by
  obtain ⟨decimals, below⟩ := decimalDigits?_spec read
  have whole : digits.takeWhile CodePoint.isDecimal = digits := by
    simpa using @List.takeWhile_append_of_pos _ CodePoint.isDecimal digits [] decimals
  rw [whole] at few
  refine (Nat.length_toDigits_le_iff (b := 10) (by decide) (by decide)).2 ?_
  exact Nat.lt_of_lt_of_le below (Nat.pow_le_pow_right (by decide) (Nat.le_of_not_lt few))

/-- The integer that a run of digits spells.  The limit counts the decimal digits at its start. -/
def integerValue (digits : Text) : Except NumeralFault Integer :=
  let count := (digits.takeWhile CodePoint.isDecimal).length
  if long : Numeral.digitLimit < count then .error (.tooManyDigits count)
  else
    match read : decimalDigits? digits with
    | some value => .ok ⟨value, short_of_decimalDigits? read long⟩
    | none => .error (.notInteger digits)

def decimalValue (whole fraction : Text) : Except NumeralFault Decimal :=
  match decimalDigits? (whole ++ fraction) with
  | some digits =>
    .ok ⟨Binary64.ofDecimal false digits (-(fraction.length : Int)),
      Binary64.negative_ofDecimal _ _ _⟩
  | none => .error (.notDecimal (whole ++ ('.' : CodePoint) :: fraction))

/-- The fraction digits after a number's whole part, when a point and a digit follow. -/
def fractionDigits (s : Text) : Text :=
  match s with
  | point :: rest => if point = '.' then rest.takeWhile CodePoint.isDigit else []
  | [] => []

def escapeValue? (c : CodePoint) : Option CodePoint :=
  if c = 'n' then some '\n'
  else if c = 't' then some '\t'
  else if c = 'r' then some '\r'
  else if c = 'b' then some '\x08'
  else if c = 'f' then some '\x0c'
  else if c = '0' then some '\x00'
  else if c = '\\' ∨ c = CodePoint.apostrophe ∨ c = '"' ∨ c = '/' then some c
  else none

/-- Reads a string's contents up to its closing quote: the value and the number of code points used,
the quote included.  `start` is the column of the opening quote, `column` that of the next code
point. -/
def readQuoted (quote : CodePoint) (start column : Nat) (s : Text) : Except Fault (Text × Nat) :=
  match s with
  | [] => .error (.unterminatedString start)
  | c :: rest =>
    if c = quote then .ok ([], 1)
    else if c = '\\' then
      match rest with
      | [] => .error (.unterminatedString start)
      | e :: rest' =>
        if e = 'u' then
          match rest' with
          | h1 :: h2 :: h3 :: h4 :: rest'' =>
            match Text.hexValue? [h1, h2, h3, h4] with
            | some n => do
              let (value, used) ← readQuoted quote start (column + 6) rest''
              return (CodePoint.ofNat n :: value, used + 6)
            | none => .error (.malformedEscape column)
          | _ => .error (.malformedEscape column)
        else
          match escapeValue? e with
          | some point => do
            let (value, used) ← readQuoted quote start (column + 2) rest'
            return (point :: value, used + 2)
          | none => .error (.unknownEscape e column)
    else do
      let (value, used) ← readQuoted quote start (column + 1) rest
      return (c :: value, used + 1)

def startsWord (c : CodePoint) : Bool := c.isLetter || c = '_'

def continuesWord (c : CodePoint) : Bool := c.isAlphanumeric || c = '_'

/-- A word holds no surrogate. -/
theorem plain_of_word {c : CodePoint} {rest : Text} (start : startsWord c = true) :
    ∀ point ∈ c :: rest.takeWhile continuesWord, point.isSurrogate = false := by
  have plain : ∀ point : CodePoint, continuesWord point = true → point.isSurrogate = false := by
    intro point continues
    simp only [continuesWord, Bool.or_eq_true, decide_eq_true_eq] at continues
    rcases continues with alphanumeric | rfl
    · exact CodePoint.isSurrogate_of_isAlphanumeric alphanumeric
    · rfl
  have continues : continuesWord c = true := by
    simp only [startsWord, continuesWord, CodePoint.isAlphanumeric, Bool.or_eq_true] at start ⊢
    exact start.imp_left Or.inl
  refine List.forall_mem_cons.mpr ⟨plain c continues, fun point member => plain point ?_⟩
  exact List.all_eq_true.mp List.all_takeWhile point member

/-- The token at the start of a text that does not start with white space, and the number of code
points after the first that belong to it. -/
def readToken (position : Nat) (c : CodePoint) (rest : Text) : Except Failure (Token × Nat) :=
  if c = '"' ∨ c = CodePoint.apostrophe then
    match readQuoted c (position + 1) (position + 2) rest with
    | .ok (value, used) => .ok (⟨.string value, c :: rest.take used, position, nofun⟩, used)
    | .error fault => .error (.fault fault)
  else if c.isDigit then
    let whole := c :: rest.takeWhile CodePoint.isDigit
    let fraction := fractionDigits (rest.dropWhile CodePoint.isDigit)
    if fraction.isEmpty then
      match integerValue whole with
      | .ok value => .ok (⟨.integer value, whole, position, nofun⟩, whole.length - 1)
      | .error fault => .error (.numeral fault)
    else
      match decimalValue whole fraction with
      | .ok value =>
        .ok (⟨.decimal value, whole ++ ('.' : CodePoint) :: fraction, position, nofun⟩,
          whole.length + fraction.length)
      | .error fault => .error (.numeral fault)
  else if start : startsWord c then
    let word := c :: rest.takeWhile continuesWord
    match Symbol.ofWord? word with
    | some symbol => .ok (⟨.symbol symbol, symbol.text, position, nofun⟩, word.length - 1)
    | none => .ok (⟨.word, word, position, fun _ => plain_of_word start⟩, word.length - 1)
  else
    match Symbol.leading? (c :: rest) with
    | some symbol => .ok (⟨.symbol symbol, symbol.text, position, nofun⟩, symbol.text.length - 1)
    | none => .error (.fault (.unexpectedCharacter c (position + 1)))

/-- The tokens of a text that starts at a position, the final one included. -/
def tokensFrom (position : Nat) (s : Text) : Except Failure (List Token) :=
  match s with
  | [] => .ok [Token.finish position]
  | c :: rest =>
    if c.isBlank then tokensFrom (position + 1) rest
    else
      match readToken position c rest with
      | .error failure => .error failure
      | .ok (token, used) =>
        match tokensFrom (position + 1 + used) (rest.drop used) with
        | .error failure => .error failure
        | .ok tokens => .ok (token :: tokens)
termination_by s.length
decreasing_by all_goals (simp; try omega)

def tokenize (source : Text) : Except Failure (List Token) := tokensFrom 0 source

end AgentFlow.Expr
