import AgentFlow.Target.Lexer
import AgentFlow.Text.CharacterName

/-!
# Values of string literals

Decodes the escapes between the quotes of a string literal.  An unknown escape stands for itself; an
escape with too few digits, or with a name that no character has, is an error.
-/

namespace AgentFlow.Target

open CodePoint (ofNat)

def letterEscape? : Char → Option Char
  | '\\' => some '\\'
  | '\x27' => some '\x27'
  | '"' => some '"'
  | 'a' => some '\x07'
  | 'b' => some '\x08'
  | 'f' => some '\x0c'
  | 'n' => some '\n'
  | 'r' => some '\r'
  | 't' => some '\t'
  | 'v' => some '\x0b'
  | _ => none

def octalDigits (s : List Char) : List Char := (s.take 3).takeWhile fun c => '0' ≤ c && c ≤ '7'

/-- The number that exactly `count` hexadecimal digits at the start of a text spell. -/
def hexEscape? (count : Nat) (s : List Char) : Option Nat :=
  if s.length < count then none else (Text.ofChars (s.take count)).hexValue?

def isInnerName (c : Char) : Bool := c ≠ '\x7d'

/-! ## What is left after an escape is shorter -/

theorem length_lt_escape (c e : Char) (rest : List Char) :
    rest.length < (c :: e :: rest).length := by
  simp only [List.length_cons]
  omega

theorem length_drop_lt_escape (n : Nat) (c e : Char) (rest : List Char) :
    (rest.drop n).length < (c :: e :: rest).length :=
  Nat.lt_of_le_of_lt (List.drop_sublist n rest).length_le (length_lt_escape c e rest)

theorem length_closing_lt_escape (c e d : Char) (name : List Char) :
    ((name.dropWhile isInnerName).drop 1).length < (c :: e :: d :: name).length :=
  Nat.lt_of_le_of_lt
    ((List.drop_sublist 1 _).trans (List.dropWhile_sublist _)).length_le
    (Nat.lt_trans (length_lt_escape e d name) (Nat.lt_succ_self _))

/-! ## The values -/

def decodeText (s : List Char) : Option Text :=
  match s with
  | [] => some []
  | '\\' :: e :: rest =>
    if e = '\n' then decodeText rest
    else if e = 'x' then do
      let n ← hexEscape? 2 rest
      return ofNat n :: (← decodeText (rest.drop 2))
    else if e = 'u' then do
      let n ← hexEscape? 4 rest
      return ofNat n :: (← decodeText (rest.drop 4))
    else if e = 'U' then do
      let n ← hexEscape? 8 rest
      if 0x10FFFF < n then none
      else return ofNat n :: (← decodeText (rest.drop 8))
    else if e = 'N' then
      match rest with
      | '\x7b' :: name =>
        let closing := name.dropWhile isInnerName
        if closing.isEmpty then none
        else do
          let n ← (Text.ofChars (name.takeWhile isInnerName)).characterNamed?
          return ofNat n :: (← decodeText (closing.drop 1))
      | _ => none
    else if '0' ≤ e ∧ e ≤ '7' then do
      let digits := octalDigits (e :: rest)
      let text ← decodeText (rest.drop (digits.length - 1))
      return ofNat (numeralValue 8 digits) :: text
    else
      match letterEscape? e with
      | some c => do return .scalar c :: (← decodeText rest)
      | none => do return .scalar '\\' :: .scalar e :: (← decodeText rest)
  | c :: rest => do return .scalar c :: (← decodeText rest)
termination_by s.length
decreasing_by
  all_goals first
    | exact length_lt_escape _ _ _
    | exact length_drop_lt_escape _ _ _ _
    | exact length_closing_lt_escape _ _ _ _
    | exact Nat.lt_succ_self _

def decodeBytes (s : List Char) : Option (List Nat) :=
  match s with
  | [] => some []
  | '\\' :: e :: rest =>
    if e = '\n' then decodeBytes rest
    else if e = 'x' then do
      let n ← hexEscape? 2 rest
      return n :: (← decodeBytes (rest.drop 2))
    else if '0' ≤ e ∧ e ≤ '7' then do
      let digits := octalDigits (e :: rest)
      return numeralValue 8 digits % 256 :: (← decodeBytes (rest.drop (digits.length - 1)))
    else
      match letterEscape? e with
      | some c => do return c.toNat :: (← decodeBytes rest)
      | none => do return 0x5C :: e.toNat :: (← decodeBytes rest)
  | c :: rest => do return c.toNat :: (← decodeBytes rest)
termination_by s.length
decreasing_by
  all_goals first
    | exact length_lt_escape _ _ _
    | exact length_drop_lt_escape _ _ _ _
    | exact Nat.lt_succ_self _

def StringToken.constant? (token : StringToken) : Option Constant :=
  if token.bytes then
    if token.body.any (128 ≤ ·.toNat) then none
    else if token.raw then some (.bytes (token.body.map Char.toNat))
    else (decodeBytes token.body).map .bytes
  else if token.raw then some (.str (Text.ofChars token.body))
  else (decodeText token.body).map .str

end AgentFlow.Target
