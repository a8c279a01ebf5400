import AgentFlow.Expr.Lexer
import AgentFlow.Expr.Tree

/-!
# Reading expression trees from tokens

Five levels of left-associative binary operators, from `||` up to `*`, then prefix operators, field
and index access, and primary expressions.  Lists and objects allow a trailing comma, call arguments
do not.  Each reader returns a tree with the tokens that are left, which are fewer: a reader calls
another one on fewer tokens, or on the same tokens at a tighter level.
-/

namespace AgentFlow.Expr

open List (length_cons)

/-! ## Binary levels -/

/-- The levels of binary operators, the loosest first. -/
inductive Level where
  | or
  | and
  | compare
  | add
  | mul
deriving DecidableEq, Repr

namespace Level

def tighter? : Level → Option Level
  | or => some and
  | and => some compare
  | compare => some add
  | add => some mul
  | mul => none

def rank : Level → Nat
  | or => 4
  | and => 3
  | compare => 2
  | add => 1
  | mul => 0

theorem rank_of_tighter? {level next : Level} (step : level.tighter? = some next) :
    next.rank < level.rank := by
  cases level <;> cases next <;> simp_all [tighter?, rank]

theorem rank_le (level : Level) : level.rank ≤ 4 := by
  cases level <;> decide

/-- The tree that a token builds as an operator of a level. -/
def operator? (level : Level) (token : Token) : Option (Expr → Expr → Expr) :=
  match level, token.kind with
  | or, .symbol .or => some (.logical .or)
  | and, .symbol .and => some (.logical .and)
  | compare, .symbol .eq => some (.compare .eq)
  | compare, .symbol .ne => some (.compare .ne)
  | compare, .symbol .lt => some (.compare .lt)
  | compare, .symbol .le => some (.compare .le)
  | compare, .symbol .gt => some (.compare .gt)
  | compare, .symbol .ge => some (.compare .ge)
  | compare, .word => if token.text = "in" then some (.compare .member) else none
  | add, .symbol .plus => some (.binary .add)
  | add, .symbol .minus => some (.binary .sub)
  | mul, .symbol .times => some (.binary .mul)
  | mul, .symbol .divide => some (.binary .div)
  | mul, .symbol .modulo => some (.binary .mod)
  | _, _ => none

end Level

def Sign.ofToken? (token : Token) : Option Sign :=
  match token.kind with
  | .symbol .not => some .not
  | .symbol .minus => some .minus
  | .symbol .plus => some .plus
  | _ => none

def keywordLiteral? (word : Text) : Option Literal :=
  if word = "true" ∨ word = "True" then some (.bool true)
  else if word = "false" ∨ word = "False" then some (.bool false)
  else if word = "null" ∨ word = "None" then some .null
  else none

/-! ## Results -/

/-- The next token; beyond the end there is nothing but the end. -/
def peek (tokens : List Token) : Token := tokens.headD (Token.finish 0)

def failure (what : Expected) (tokens : List Token) : Fault :=
  let token := peek tokens
  .expected what (token.position + 1) (if token.kind = .finish then none else some token.text)

/-- Something read from the start of `tokens`: its value, what is left, and the fact that this is
shorter. -/
structure Parsed (α : Type) (tokens : List Token) where
  value : α
  rest : List Token
  shorter : rest.length < tokens.length

/-- The continuation of a tree over more of `tokens`, possibly over none of them. -/
structure Extended (tokens : List Token) where
  value : Expr
  rest : List Token
  notLonger : rest.length ≤ tokens.length

/-- A result of reading from `tokens`. -/
abbrev Parse (α : Type) (tokens : List Token) := Except Fault (Parsed α tokens)

/-! ## Fewer tokens are left -/

theorem length_lt_cons (token : Token) (rest : List Token) : rest.length < (token :: rest).length :=
  Nat.lt_succ_self _

theorem length_lt_of_after {tokens rest rest' : List Token} {next : Token}
    (after : rest = next :: rest') (shorter : rest.length < tokens.length) :
    rest'.length + 1 < tokens.length := by
  subst after
  exact shorter

theorem length_lt_of_comma (token : Token) {rest rest' more left : List Token}
    (colon : rest'.length < rest.length) (fits : more.length + 1 < rest'.length)
    (fewer : left.length < more.length) : left.length < (token :: rest).length := by
  simp only [length_cons]
  omega

theorem length_lt_of_close (token : Token) {rest rest' more left : List Token} {next : Token}
    (colon : rest'.length < rest.length) (fits : more.length + 1 < rest'.length)
    (closed : left.length < (next :: more).length) : left.length < (token :: rest).length := by
  simp only [length_cons] at closed ⊢
  omega

/-! ## Symbols and keys -/

def expectSymbol (symbol : Symbol) (tokens : List Token) : Parse Unit tokens :=
  match tokens with
  | token :: rest =>
    if token.isSymbol symbol then .ok ⟨(), rest, length_lt_cons token rest⟩
    else .error (failure (.symbol symbol) (token :: rest))
  | [] => .error (failure (.symbol symbol) [])

def objectKey? (token : Token) : Option Text :=
  match token.kind with
  | .string value => some value
  | .word => some token.text
  | _ => none

/-! ## The grammar -/

mutual

def parseLevel (level : Level) (tokens : List Token) : Parse Expr tokens := do
  let ⟨left, rest, shorter⟩ ← parseOperand level tokens
  let ⟨tree, rest', notLonger⟩ ← parseChain level left rest
  return ⟨tree, rest', by omega⟩
termination_by 15 * tokens.length + 2 * level.rank + 4
decreasing_by
  · omega
  · omega

/-- Reads an operand of a level: an expression of the next tighter one. -/
def parseOperand (level : Level) (tokens : List Token) : Parse Expr tokens :=
  match _step : level.tighter? with
  | some next => parseLevel next tokens
  | none => parseUnary tokens
termination_by 15 * tokens.length + 2 * level.rank + 3
decreasing_by
  · have := Level.rank_of_tighter? _step
    omega
  · omega

/-- Goes on with a left operand as long as operators of a level follow. -/
def parseChain (level : Level) (left : Expr) (tokens : List Token) :
    Except Fault (Extended tokens) :=
  match tokens with
  | [] => .ok ⟨left, [], Nat.le_refl _⟩
  | token :: rest =>
    match level.operator? token with
    | none => .ok ⟨left, token :: rest, Nat.le_refl _⟩
    | some combine => do
      let ⟨right, rest', shorter⟩ ← parseOperand level rest
      let ⟨tree, rest'', notLonger⟩ ← parseChain level (combine left right) rest'
      return ⟨tree, rest'', by simp only [length_cons]; omega⟩
termination_by 15 * tokens.length
decreasing_by
  · have := level.rank_le
    simp only [length_cons]
    omega
  · simp only [length_cons]
    omega

def parseUnary (tokens : List Token) : Parse Expr tokens :=
  match tokens with
  | [] => .error (failure .value [])
  | token :: rest =>
    match Sign.ofToken? token with
    | some sign => do
      let ⟨operand, rest', shorter⟩ ← parseUnary rest
      return ⟨.unary sign operand, rest', by simp only [length_cons]; omega⟩
    | none => parseAccessed (token :: rest)
termination_by 15 * tokens.length + 2
decreasing_by
  · simp only [length_cons]
    omega
  · omega

def parseAccessed (tokens : List Token) : Parse Expr tokens := do
  let ⟨target, rest, shorter⟩ ← parsePrimary tokens
  let ⟨tree, rest', notLonger⟩ ← parseAccess target rest
  return ⟨tree, rest', by omega⟩
termination_by 15 * tokens.length + 1
decreasing_by
  · omega
  · omega

/-- Goes on with a target as long as field or index accesses follow. -/
def parseAccess (target : Expr) (tokens : List Token) : Except Fault (Extended tokens) :=
  match tokens with
  | [] => .ok ⟨target, [], Nat.le_refl _⟩
  | token :: rest =>
    if token.isSymbol .dot then
      match rest with
      | field :: rest' =>
        if word : field.kind = .word then do
          let key : Field := ⟨field.text, field.plain word⟩
          let ⟨tree, rest'', notLonger⟩ ← parseAccess (.member target key) rest'
          return ⟨tree, rest'', by simp only [length_cons]; omega⟩
        else .error (failure .fieldName (field :: rest'))
      | [] => .error (failure .fieldName [])
    else if token.isSymbol .openBracket then do
      let ⟨position, rest', shorter⟩ ← parseLevel .or rest
      let ⟨_, rest'', closed⟩ ← expectSymbol .closeBracket rest'
      let ⟨tree, rest3, notLonger⟩ ← parseAccess (.index target position) rest''
      return ⟨tree, rest3, by simp only [length_cons]; omega⟩
    else .ok ⟨target, token :: rest, Nat.le_refl _⟩
termination_by 15 * tokens.length
decreasing_by
  all_goals
    simp only [length_cons, Level.rank]
    omega

def parsePrimary (tokens : List Token) : Parse Expr tokens :=
  match tokens with
  | [] => .error (failure .value [])
  | token :: rest =>
    match token.kind with
    | .integer value => .ok ⟨.literal (.integer value), rest, length_lt_cons token rest⟩
    | .decimal value => .ok ⟨.literal (.decimal value), rest, length_lt_cons token rest⟩
    | .string value => .ok ⟨.literal (.string value), rest, length_lt_cons token rest⟩
    | .word =>
      match keywordLiteral? token.text with
      | some value => .ok ⟨.literal value, rest, length_lt_cons token rest⟩
      | none =>
        match rest with
        | paren :: rest' =>
          if paren.isSymbol .openParen then do
            let ⟨arguments, rest'', shorter⟩ ← parseArguments rest'
            return ⟨.call token.text arguments, rest'', by simp only [length_cons]; omega⟩
          else .ok ⟨.name token.text, paren :: rest', by simp⟩
        | [] => .ok ⟨.name token.text, [], by simp⟩
    | .symbol .openParen => do
      let ⟨inner, rest', shorter⟩ ← parseLevel .or rest
      let ⟨_, rest'', closed⟩ ← expectSymbol .closeParen rest'
      return ⟨inner, rest'', by simp only [length_cons]; omega⟩
    | .symbol .openBracket => do
      let ⟨items, rest', shorter⟩ ← parseItems rest
      return ⟨.list items, rest', by simp only [length_cons]; omega⟩
    | .symbol .openBrace => do
      let ⟨entries, rest', shorter⟩ ← parseEntries rest
      return ⟨.object entries, rest', by simp only [length_cons]; omega⟩
    | _ => .error (failure .value (token :: rest))
termination_by 15 * tokens.length
decreasing_by
  all_goals
    simp only [length_cons, Level.rank]
    omega

/-- Reads call arguments up to and including the closing parenthesis. -/
def parseArguments (tokens : List Token) : Parse (List Expr) tokens :=
  match tokens with
  | [] => .error (failure .value [])
  | token :: rest =>
    if token.isSymbol .closeParen then .ok ⟨[], rest, length_lt_cons token rest⟩
    else parseMoreArguments (token :: rest)
termination_by 15 * tokens.length + 14
decreasing_by omega

def parseMoreArguments (tokens : List Token) : Parse (List Expr) tokens := do
  let ⟨argument, rest, shorter⟩ ← parseLevel .or tokens
  match after : rest with
  | token :: rest' =>
    have fits : rest'.length + 1 < tokens.length := length_lt_of_after after shorter
    if token.isSymbol .comma then
      let ⟨arguments, rest'', fewer⟩ ← parseMoreArguments rest'
      return ⟨argument :: arguments, rest'', by omega⟩
    else
      let ⟨_, rest'', closed⟩ ← expectSymbol .closeParen (token :: rest')
      return ⟨[argument], rest'', by simp only [length_cons] at closed; omega⟩
  | [] => .error (failure (.symbol .closeParen) [])
termination_by 15 * tokens.length + 13
decreasing_by
  · simp only [Level.rank]
    omega
  · omega

/-- Reads list items up to and including the closing bracket; a comma may follow the last one. -/
def parseItems (tokens : List Token) : Parse (List Expr) tokens :=
  match tokens with
  | [] => .error (failure .value [])
  | token :: rest =>
    if token.isSymbol .closeBracket then .ok ⟨[], rest, length_lt_cons token rest⟩
    else do
      let ⟨item, rest', shorter⟩ ← parseLevel .or (token :: rest)
      match after : rest' with
      | next :: rest'' =>
        have fits : rest''.length + 1 < rest.length + 1 := length_lt_of_after after shorter
        if next.isSymbol .comma then
          let ⟨items, left, fewer⟩ ← parseItems rest''
          return ⟨item :: items, left, by simp only [length_cons]; omega⟩
        else
          let ⟨_, left, closed⟩ ← expectSymbol .closeBracket (next :: rest'')
          return ⟨[item], left, by simp only [length_cons] at closed ⊢; omega⟩
      | [] => .error (failure (.symbol .closeBracket) [])
termination_by 15 * tokens.length + 13
decreasing_by
  all_goals
    simp only [length_cons, Level.rank]
    omega

/-- Reads object entries up to and including the closing brace; a comma may follow the last one. -/
def parseEntries (tokens : List Token) : Parse (List (Text × Expr)) tokens :=
  match tokens with
  | [] => .error (failure .objectKey [])
  | token :: rest =>
    if token.isSymbol .closeBrace then .ok ⟨[], rest, length_lt_cons token rest⟩
    else
      match objectKey? token with
      | none => .error (failure .objectKey (token :: rest))
      | some key =>
        if key.isEmpty then .error (failure .nonEmptyKey rest)
        else do
          let ⟨_, rest', colon⟩ ← expectSymbol .colon rest
          let ⟨value, rest'', shorter⟩ ← parseLevel .or rest'
          match after : rest'' with
          | next :: rest3 =>
            have fits : rest3.length + 1 < rest'.length := length_lt_of_after after shorter
            if next.isSymbol .comma then
              let ⟨entries, left, fewer⟩ ← parseEntries rest3
              return ⟨(key, value) :: entries, left, length_lt_of_comma token colon fits fewer⟩
            else
              let ⟨_, left, closed⟩ ← expectSymbol .closeBrace (next :: rest3)
              return ⟨[(key, value)], left, length_lt_of_close token colon fits closed⟩
          | [] => .error (failure (.symbol .closeBrace) [])
termination_by 15 * tokens.length + 13
decreasing_by
  all_goals
    simp only [length_cons, Level.rank]
    omega

end

def parseTokens (tokens : List Token) : Except Fault Expr :=
  if (peek tokens).kind = .finish then .error .empty
  else do
    let ⟨tree, rest, _⟩ ← parseLevel .or tokens
    if (peek rest).kind = .finish then return tree
    else .error (failure .finish rest)

def parse (source : Text) : Except Failure Expr := do
  let tokens ← tokenize source
  match parseTokens tokens with
  | .ok tree => return tree
  | .error fault => .error (.fault fault)

end AgentFlow.Expr
