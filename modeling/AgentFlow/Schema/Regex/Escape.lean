import AgentFlow.Schema.Regex.Basic
import AgentFlow.Text.CharacterName

/-!
# Escapes and sets of regular expressions

An escape stands for a character, for a class of characters, for a place in the text or for what a
group matched before.  Inside a set only characters and classes are possible.
-/

namespace AgentFlow.Schema.Regex

def takeHex (count : Nat) (signs : List Sign) : Reading (Nat × List Sign) :=
  let (digits, left) := takePlain count (·.hexValue?.isSome) signs
  if digits.length = count then .ok (digitsValue 16 digits, left) else malformed

/-- The escapes that are spelled alike inside and outside sets: a character, or a class. -/
def commonEscape (c : CodePoint) (rest : List Sign) : Reading (Option Nat × List Sign) :=
  let letter : Char := (c.toChar?).getD ' '
  if letter ∈ ['d', 'D', 's', 'S', 'w', 'W'] then .ok (none, rest)
  else if letter = 'a' then .ok (some 7, rest)
  else if letter = 'f' then .ok (some 12, rest)
  else if letter = 'n' then .ok (some 10, rest)
  else if letter = 'r' then .ok (some 13, rest)
  else if letter = 't' then .ok (some 9, rest)
  else if letter = 'v' then .ok (some 11, rest)
  else if letter = 'x' then do
    let (n, left) ← takeHex 2 rest
    .ok (some n, left)
  else if letter = 'u' then do
    let (n, left) ← takeHex 4 rest
    .ok (some n, left)
  else if letter = 'U' then do
    let (n, left) ← takeHex 8 rest
    if 0x80000000 ≤ n then defectBefore .codePointTooLarge left
    else if n ≤ 0x10FFFF then .ok (some n, left)
    else malformed
  else if letter = 'N' then
    match rest with
    | brace :: named =>
      if brace.is '\x7b' then do
        let (name, left) ← takeName '\x7d' named
        match name.characterNamed? with
        | some n => .ok (some n, left)
        | none => malformed
      else malformed
    | [] => malformed
  else if isAsciiLetter c || isDecimal c then malformed
  else .ok (some c.toNat, rest)

/-! ## Sets -/

def setEscape (c : CodePoint) (rest : List Sign) : Reading (Option Nat × List Sign) :=
  if c = 'b' then .ok (some 8, rest)
  else if isOctal c then
    let (digits, left) := takePlain 2 isOctal rest
    let value := digitsValue 8 (c :: digits)
    if value ≤ 255 then .ok (some value, left) else malformed
  else commonEscape c rest

def setMember : List Sign → Reading (Option Nat × List Sign)
  | .plain c :: rest => .ok (some c.toNat, rest)
  | .escaped c :: rest => setEscape c rest
  | _ => malformed

/-- Reads a set after its opening bracket; the first member may be a closing bracket. -/
def set (fuel : Nat) (first : Bool) (signs : List Sign) : Reading (List Sign) :=
  match fuel with
  | 0 => malformed
  | fuel + 1 =>
    if startsWith ']' signs && !first then .ok (signs.drop 1)
    else do
      let (low, left) ← setMember signs
      if !startsWith '-' left then set fuel false left
      else if startsWith ']' (left.drop 1) then .ok (left.drop 2)
      else
        let (high, left) ← setMember (left.drop 1)
        match low, high with
        | some low, some high => if low ≤ high then set fuel false left else malformed
        | _, _ => malformed

/-! ## Outside sets -/

def escape (context : Context) (c : CodePoint) (rest : List Sign) :
    Reading (Piece × List Sign) :=
  let letter : Char := (c.toChar?).getD ' '
  if letter ∈ ['A', 'b', 'B', 'Z'] then .ok (.place, rest)
  else if letter = '0' then .ok (.item .one, (takePlain 2 isOctal rest).2)
  else if isDecimal c then
    let (more, left) := takePlain 1 isDecimal rest
    let (third, left') := takePlain 1 isOctal left
    if isOctal c && more.all isOctal && more.length = 1 && third.length = 1 then
      if digitsValue 8 (c :: more ++ third) ≤ 255 then .ok (.item .one, left') else malformed
    else do
      let width ← context.refer (digitsValue 10 (c :: more))
      .ok (.item width, left)
  else do
    let (_, left) ← commonEscape c rest
    .ok (.item .one, left)

end AgentFlow.Schema.Regex
