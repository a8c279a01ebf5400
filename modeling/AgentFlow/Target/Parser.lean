import AgentFlow.Target.Format

/-!
# Reading expressions of the generated language

A recursive-descent reader for the expression grammar of Python 3.11.  The readers call each other
along the grammar; each call uses up one unit of fuel, and the fuel for a text is a multiple of its
length, more than any chain of calls needs.
-/

namespace AgentFlow.Target

/-! ## Operators -/

/-- The levels of arithmetic and bit operators, the loosest first. -/
inductive ArithLevel where
  | bitOr
  | bitXor
  | bitAnd
  | shift
  | sum
  | term
deriving DecidableEq, Repr

namespace ArithLevel

def tighter? : ArithLevel → Option ArithLevel
  | bitOr => some bitXor
  | bitXor => some bitAnd
  | bitAnd => some shift
  | shift => some sum
  | sum => some term
  | term => none

def operator? (level : ArithLevel) (token : Token) : Option BinaryOp :=
  match level, token with
  | bitOr, .op "|" => some .bitOr
  | bitXor, .op "^" => some .bitXor
  | bitAnd, .op "&" => some .bitAnd
  | shift, .op "<<" => some .shiftLeft
  | shift, .op ">>" => some .shiftRight
  | sum, .op "+" => some .add
  | sum, .op "-" => some .sub
  | term, .op "*" => some .mul
  | term, .op "/" => some .div
  | term, .op "//" => some .floorDiv
  | term, .op "%" => some .mod
  | term, .op "@" => some .matMul
  | _, _ => none

end ArithLevel

def comparison? : List Token → Option (CompareOp × List Token)
  | .op "==" :: rest => some (.eq, rest)
  | .op "!=" :: rest => some (.notEq, rest)
  | .op "<=" :: rest => some (.ltE, rest)
  | .op "<" :: rest => some (.lt, rest)
  | .op ">=" :: rest => some (.gtE, rest)
  | .op ">" :: rest => some (.gt, rest)
  | .keyword "not" :: .keyword "in" :: rest => some (.notMember, rest)
  | .keyword "in" :: rest => some (.member, rest)
  | .keyword "is" :: .keyword "not" :: rest => some (.isNot, rest)
  | .keyword "is" :: rest => some (.is, rest)
  | _ => none

def factorOp? : Token → Option UnaryOp
  | .op "+" => some .plus
  | .op "-" => some .minus
  | .op "~" => some .invert
  | _ => none

/-! ## Targets and parameters -/

mutual

def isTarget : Code → Bool
  | .name _ => true
  | .attr _ _ => true
  | .subscript _ _ => true
  | .tuple items => areTargets items
  | .list items => areTargets items
  | _ => false

/-- Whether expressions can be bound together, each possibly starred. -/
def areTargets : List Code → Bool
  | [] => true
  | .starred value :: rest => isTarget value && areTargets rest
  | item :: rest => isTarget item && areTargets rest

end

/-- Whether a sequence of parameters is in order: parameters without default do not follow ones with
a default up to the starred one, and a bare star has a named parameter after it. -/
def parametersInOrder (parameters : List (Parameter Code)) : Bool :=
  let positional := parameters.filter fun p => p.kind = .positionalOnly || p.kind = .ordinary
  (positional.dropWhile (·.default?.isNone)).all (·.default?.isSome)

def expectOp (text : String) : List Token → Option (List Token)
  | .op found :: rest => if found = text then some rest else none
  | _ => none

def atOp (text : String) : List Token → Bool
  | .op found :: _ => found = text
  | _ => false

def atClause : List Token → Bool
  | .keyword "for" :: _ => true
  | .keyword "async" :: _ => true
  | _ => false

/-- What follows a parameter: a comma, which is dropped, or the colon. -/
def readParameterEnd : List Token → Option (List Token)
  | .op "," :: rest => some rest
  | .op ":" :: rest => some (.op ":" :: rest)
  | _ => none

/-- Adjacent string literals as one expression: a formatted one if any of them is, otherwise one
constant; text and bytes do not mix. -/
def joinPieces (pieces : List (Constant ⊕ List Code)) : Option Code :=
  let isBytes : Constant ⊕ List Code → Bool
    | .inl (.bytes _) => true
    | _ => false
  if pieces.all isBytes then
    some (.constant (.bytes (pieces.flatMap fun
      | .inl (.bytes value) => value
      | _ => [])))
  else if pieces.any isBytes then none
  else if pieces.any Sum.isRight then
    some (.joined (pieces.flatMap fun
      | .inl value => [.constant value]
      | .inr parts => parts))
  else
    some (.constant (.str (pieces.flatMap fun
      | .inl (.str value) => value
      | _ => [])))

/-! ## The grammar -/

mutual

def readExpression (fuel : Nat) (tokens : List Token) : Option (Code × List Token) :=
  match fuel with
  | 0 => none
  | fuel + 1 =>
    match tokens with
    | .keyword "lambda" :: rest => do
      let (parameters, rest) ← readParameters fuel .ordinary false rest
      let rest ← expectOp ":" rest
      let (body, rest) ← readExpression fuel rest
      if parametersInOrder parameters then some (.lambda parameters body, rest) else none
    | _ => do
      let (body, rest) ← readDisjunction fuel tokens
      match rest with
      | .keyword "if" :: rest => do
        let (test, rest) ← readDisjunction fuel rest
        match rest with
        | .keyword "else" :: rest => do
          let (orelse, rest) ← readExpression fuel rest
          some (.ifExp test body orelse, rest)
        | _ => none
      | _ => some (body, rest)

def readDisjunction (fuel : Nat) (tokens : List Token) : Option (Code × List Token) :=
  match fuel with
  | 0 => none
  | fuel + 1 => do
    let (first, rest) ← readConjunction fuel tokens
    let (more, rest) ← readDisjuncts fuel rest
    some (if more.isEmpty then first else .boolOp .or (first :: more), rest)

def readDisjuncts (fuel : Nat) (tokens : List Token) : Option (List Code × List Token) :=
  match fuel with
  | 0 => none
  | fuel + 1 =>
    match tokens with
    | .keyword "or" :: rest => do
      let (value, rest) ← readConjunction fuel rest
      let (more, rest) ← readDisjuncts fuel rest
      some (value :: more, rest)
    | _ => some ([], tokens)

def readConjunction (fuel : Nat) (tokens : List Token) : Option (Code × List Token) :=
  match fuel with
  | 0 => none
  | fuel + 1 => do
    let (first, rest) ← readInversion fuel tokens
    let (more, rest) ← readConjuncts fuel rest
    some (if more.isEmpty then first else .boolOp .and (first :: more), rest)

def readConjuncts (fuel : Nat) (tokens : List Token) : Option (List Code × List Token) :=
  match fuel with
  | 0 => none
  | fuel + 1 =>
    match tokens with
    | .keyword "and" :: rest => do
      let (value, rest) ← readInversion fuel rest
      let (more, rest) ← readConjuncts fuel rest
      some (value :: more, rest)
    | _ => some ([], tokens)

def readInversion (fuel : Nat) (tokens : List Token) : Option (Code × List Token) :=
  match fuel with
  | 0 => none
  | fuel + 1 =>
    match tokens with
    | .keyword "not" :: rest => do
      let (operand, rest) ← readInversion fuel rest
      some (.unaryOp .not operand, rest)
    | _ => readComparison fuel tokens

def readComparison (fuel : Nat) (tokens : List Token) : Option (Code × List Token) :=
  match fuel with
  | 0 => none
  | fuel + 1 => do
    let (left, rest) ← readArith fuel .bitOr tokens
    let (more, rest) ← readComparands fuel rest
    some (if more.isEmpty then left else .compare left more, rest)

def readComparands (fuel : Nat) (tokens : List Token) :
    Option (List (CompareOp × Code) × List Token) :=
  match fuel with
  | 0 => none
  | fuel + 1 =>
    match comparison? tokens with
    | some (op, rest) => do
      let (value, rest) ← readArith fuel .bitOr rest
      let (more, rest) ← readComparands fuel rest
      some ((op, value) :: more, rest)
    | none => some ([], tokens)

/-- Operands of a level joined by its operators, to the left. -/
def readArith (fuel : Nat) (level : ArithLevel) (tokens : List Token) :
    Option (Code × List Token) :=
  match fuel with
  | 0 => none
  | fuel + 1 => do
    let (left, rest) ← readArithOperand fuel level tokens
    readArithChain fuel level left rest

def readArithOperand (fuel : Nat) (level : ArithLevel) (tokens : List Token) :
    Option (Code × List Token) :=
  match fuel with
  | 0 => none
  | fuel + 1 =>
    match level.tighter? with
    | some next => readArith fuel next tokens
    | none => readFactor fuel tokens

/-- Goes on with a left operand as long as operators of a level follow. -/
def readArithChain (fuel : Nat) (level : ArithLevel) (left : Code) (tokens : List Token) :
    Option (Code × List Token) :=
  match fuel with
  | 0 => none
  | fuel + 1 =>
    match tokens with
    | token :: rest =>
      match level.operator? token with
      | some op => do
        let (right, rest) ← readArithOperand fuel level rest
        readArithChain fuel level (.binOp op left right) rest
      | none => some (left, tokens)
    | [] => some (left, [])

def readFactor (fuel : Nat) (tokens : List Token) : Option (Code × List Token) :=
  match fuel with
  | 0 => none
  | fuel + 1 =>
    match tokens with
    | token :: rest =>
      match factorOp? token with
      | some op => do
        let (operand, rest) ← readFactor fuel rest
        some (.unaryOp op operand, rest)
      | none => readPower fuel tokens
    | [] => none

def readPower (fuel : Nat) (tokens : List Token) : Option (Code × List Token) :=
  match fuel with
  | 0 => none
  | fuel + 1 => do
    let (base, rest) ← match tokens with
      | .keyword "await" :: rest => do
        let (value, rest) ← readPrimary fuel rest
        some (Code.await value, rest)
      | _ => readPrimary fuel tokens
    match rest with
    | .op "**" :: rest => do
      let (exponent, rest) ← readFactor fuel rest
      some (.binOp .pow base exponent, rest)
    | _ => some (base, rest)

def readPrimary (fuel : Nat) (tokens : List Token) : Option (Code × List Token) :=
  match fuel with
  | 0 => none
  | fuel + 1 => do
    let (value, rest) ← readAtom fuel tokens
    readTrailers fuel value rest

def readTrailers (fuel : Nat) (value : Code) (tokens : List Token) : Option (Code × List Token) :=
  match fuel with
  | 0 => none
  | fuel + 1 =>
    match tokens with
    | .op "." :: .name field :: rest => readTrailers fuel (.attr value field) rest
    | .op "." :: _ => none
    | .op "[" :: rest => do
      let (index, rest) ← readSlices fuel rest
      let rest ← expectOp "]" rest
      readTrailers fuel (.subscript value index) rest
    | .op "(" :: rest => do
      let ((arguments, keywords), rest) ← readArguments fuel rest
      readTrailers fuel (.call value arguments keywords) rest
    | _ => some (value, tokens)

def readAtom (fuel : Nat) (tokens : List Token) : Option (Code × List Token) :=
  match fuel with
  | 0 => none
  | fuel + 1 =>
    match tokens with
    | .name id :: rest => some (.name id, rest)
    | .keyword "True" :: rest => some (.constant (.bool true), rest)
    | .keyword "False" :: rest => some (.constant (.bool false), rest)
    | .keyword "None" :: rest => some (.constant .none, rest)
    | .number value :: rest => some (.constant value, rest)
    | .string token :: rest => do
      let (pieces, rest) ← readStrings fuel (.string token :: rest)
      let value ← joinPieces pieces
      some (value, rest)
    | .op "..." :: rest => some (.constant .ellipsis, rest)
    | .op "(" :: rest => readParenthesised fuel rest
    | .op "[" :: rest => readBracketed fuel rest
    | .op "\x7b" :: rest => readBraced fuel rest
    | _ => none

/-- What stands after an opening parenthesis: an empty or other tuple, a generator, a `yield`, or a
single expression. -/
def readParenthesised (fuel : Nat) (tokens : List Token) : Option (Code × List Token) :=
  match fuel with
  | 0 => none
  | fuel + 1 =>
    match tokens with
    | .op ")" :: rest => some (.tuple [], rest)
    | .keyword "yield" :: rest => do
      let (value, rest) ← readYield fuel rest
      let rest ← expectOp ")" rest
      some (value, rest)
    | _ => do
      let (first, rest) ← readStarNamed fuel tokens
      if atOp "," rest then
        let (items, rest) ← readItems fuel ")" (rest.drop 1)
        some (.tuple (first :: items), rest)
      else
        match first with
        | .starred _ => none
        | _ =>
          if atClause rest then
            let (clauses, rest) ← readClauses fuel rest
            let rest ← expectOp ")" rest
            some (.generator first clauses, rest)
          else
            let rest ← expectOp ")" rest
            some (first, rest)

def readBracketed (fuel : Nat) (tokens : List Token) : Option (Code × List Token) :=
  match fuel with
  | 0 => none
  | fuel + 1 =>
    match tokens with
    | .op "]" :: rest => some (.list [], rest)
    | _ => do
      let (first, rest) ← readStarNamed fuel tokens
      if atClause rest then
        match first with
        | .starred _ => none
        | _ =>
          let (clauses, rest) ← readClauses fuel rest
          let rest ← expectOp "]" rest
          some (.listComp first clauses, rest)
      else if atOp "," rest then
        let (items, rest) ← readItems fuel "]" (rest.drop 1)
        some (.list (first :: items), rest)
      else
        let rest ← expectOp "]" rest
        some (.list [first], rest)

/-- What stands after an opening brace: a dictionary, a set, or a comprehension of either. -/
def readBraced (fuel : Nat) (tokens : List Token) : Option (Code × List Token) :=
  match fuel with
  | 0 => none
  | fuel + 1 =>
    match tokens with
    | .op "\x7d" :: rest => some (.dict [], rest)
    | .op "**" :: _ => do
      let (entries, rest) ← readDictEntries fuel tokens
      some (.dict entries, rest)
    | _ => do
      let (first, rest) ← readStarNamed fuel tokens
      if atOp ":" rest then
        match first with
        | .starred _ => none
        | .named _ _ => if atOp "(" tokens then readDict fuel first rest else none
        | _ => readDict fuel first rest
      else if atClause rest then
        match first with
        | .starred _ => none
        | _ =>
          let (clauses, rest) ← readClauses fuel rest
          let rest ← expectOp "\x7d" rest
          some (.setComp first clauses, rest)
      else if atOp "," rest then
        let (items, rest) ← readItems fuel "\x7d" (rest.drop 1)
        some (.set (first :: items), rest)
      else
        let rest ← expectOp "\x7d" rest
        some (.set [first], rest)

/-- A dictionary or dictionary comprehension after its first key, from the colon on. -/
def readDict (fuel : Nat) (key : Code) (tokens : List Token) : Option (Code × List Token) :=
  match fuel with
  | 0 => none
  | fuel + 1 => do
    let rest ← expectOp ":" tokens
    let (value, rest) ← readExpression fuel rest
    if atClause rest then
      let (clauses, rest) ← readClauses fuel rest
      let rest ← expectOp "\x7d" rest
      some (.dictComp key value clauses, rest)
    else if atOp "," rest then
      let (entries, rest) ← readDictEntries fuel (rest.drop 1)
      some (.dict ((some key, value) :: entries), rest)
    else
      let rest ← expectOp "\x7d" rest
      some (.dict [(some key, value)], rest)

def readDictEntries (fuel : Nat) (tokens : List Token) :
    Option (List (Option Code × Code) × List Token) :=
  match fuel with
  | 0 => none
  | fuel + 1 =>
    match tokens with
    | .op "\x7d" :: rest => some ([], rest)
    | _ => do
      let (entry, rest) ← match tokens with
        | .op "**" :: rest => do
          let (value, rest) ← readArith fuel .bitOr rest
          some ((none, value), rest)
        | _ => do
          let (key, rest) ← readExpression fuel tokens
          let rest ← expectOp ":" rest
          let (value, rest) ← readExpression fuel rest
          some ((some key, value), rest)
      if atOp "," rest then
        let (entries, rest) ← readDictEntries fuel (rest.drop 1)
        some (entry :: entries, rest)
      else
        let rest ← expectOp "\x7d" rest
        some ([entry], rest)

/-- Items up to and including a closing bracket; a comma may follow the last one. -/
def readItems (fuel : Nat) (closing : String) (tokens : List Token) :
    Option (List Code × List Token) :=
  match fuel with
  | 0 => none
  | fuel + 1 =>
    match expectOp closing tokens with
    | some rest => some ([], rest)
    | none => do
      let (item, rest) ← readStarNamed fuel tokens
      if atOp "," rest then
        let (items, rest) ← readItems fuel closing (rest.drop 1)
        some (item :: items, rest)
      else
        let rest ← expectOp closing rest
        some ([item], rest)

def readStarNamed (fuel : Nat) (tokens : List Token) : Option (Code × List Token) :=
  match fuel with
  | 0 => none
  | fuel + 1 =>
    match tokens with
    | .op "*" :: rest => do
      let (value, rest) ← readArith fuel .bitOr rest
      some (.starred value, rest)
    | _ => readNamed fuel tokens

def readNamed (fuel : Nat) (tokens : List Token) : Option (Code × List Token) :=
  match fuel with
  | 0 => none
  | fuel + 1 =>
    match tokens with
    | .name id :: .op ":=" :: rest => do
      let (value, rest) ← readExpression fuel rest
      some (.named (.name id) value, rest)
    | _ => do
      let (value, rest) ← readExpression fuel tokens
      if atOp ":=" rest then none else some (value, rest)

def readYield (fuel : Nat) (tokens : List Token) : Option (Code × List Token) :=
  match fuel with
  | 0 => none
  | fuel + 1 =>
    match tokens with
    | .keyword "from" :: rest => do
      let (value, rest) ← readExpression fuel rest
      some (.yieldFrom value, rest)
    | _ =>
      if tokens.isEmpty || atOp ")" tokens then some (.yield none, tokens)
      else do
        let (value, rest) ← readStarExpressions fuel tokens
        some (.yield (some value), rest)

/-- Expressions, possibly starred, separated by commas: a tuple when there is a comma. -/
def readStarExpressions (fuel : Nat) (tokens : List Token) : Option (Code × List Token) :=
  match fuel with
  | 0 => none
  | fuel + 1 => do
    let (first, rest) ← readStarExpression fuel tokens
    if atOp "," rest then
      let (more, rest) ← readStarTail fuel rest
      some (.tuple (first :: more), rest)
    else some (first, rest)

/-- The expressions after commas; the last comma may have none after it. -/
def readStarTail (fuel : Nat) (tokens : List Token) : Option (List Code × List Token) :=
  match fuel with
  | 0 => none
  | fuel + 1 =>
    match tokens with
    | .op "," :: rest =>
      match readStarExpression fuel rest with
      | some (value, rest) => do
        let (more, rest) ← readStarTail fuel rest
        some (value :: more, rest)
      | none => some ([], rest)
    | _ => some ([], tokens)

def readStarExpression (fuel : Nat) (tokens : List Token) : Option (Code × List Token) :=
  match fuel with
  | 0 => none
  | fuel + 1 =>
    match tokens with
    | .op "*" :: rest => do
      let (value, rest) ← readArith fuel .bitOr rest
      some (.starred value, rest)
    | _ => readExpression fuel tokens

def readClauses (fuel : Nat) (tokens : List Token) : Option (List (Clause Code) × List Token) :=
  match fuel with
  | 0 => none
  | fuel + 1 =>
    let (isAsync, tokens) : Bool × List Token := match tokens with
      | .keyword "async" :: rest => (true, rest)
      | _ => (false, tokens)
    match tokens with
    | .keyword "for" :: rest => do
      let (target, rest) ← readTargets fuel rest
      match rest with
      | .keyword "in" :: rest => do
        let (source, rest) ← readDisjunction fuel rest
        let (conditions, rest) ← readConditions fuel rest
        let clause : Clause Code := ⟨isAsync, target, source, conditions⟩
        if atClause rest then
          let (clauses, rest) ← readClauses fuel rest
          some (clause :: clauses, rest)
        else some ([clause], rest)
      | _ => none
    | _ => none

def readConditions (fuel : Nat) (tokens : List Token) : Option (List Code × List Token) :=
  match fuel with
  | 0 => none
  | fuel + 1 =>
    match tokens with
    | .keyword "if" :: rest => do
      let (condition, rest) ← readDisjunction fuel rest
      let (more, rest) ← readConditions fuel rest
      some (condition :: more, rest)
    | _ => some ([], tokens)

def readTargets (fuel : Nat) (tokens : List Token) : Option (Code × List Token) :=
  match fuel with
  | 0 => none
  | fuel + 1 => do
    let (first, rest) ← readTarget fuel tokens
    if atOp "," rest then
      let (more, rest) ← readTargetTail fuel rest
      some (.tuple (first :: more), rest)
    else some (first, rest)

def readTargetTail (fuel : Nat) (tokens : List Token) : Option (List Code × List Token) :=
  match fuel with
  | 0 => none
  | fuel + 1 =>
    match tokens with
    | .op "," :: .keyword "in" :: rest => some ([], .keyword "in" :: rest)
    | .op "," :: rest => do
      let (target, rest) ← readTarget fuel rest
      let (more, rest) ← readTargetTail fuel rest
      some (target :: more, rest)
    | _ => some ([], tokens)

def readTarget (fuel : Nat) (tokens : List Token) : Option (Code × List Token) :=
  match fuel with
  | 0 => none
  | fuel + 1 =>
    match tokens with
    | .op "*" :: rest => do
      let (target, rest) ← readPrimary fuel rest
      if isTarget target then some (.starred target, rest) else none
    | _ => do
      let (target, rest) ← readPrimary fuel tokens
      if isTarget target then some (target, rest) else none

/-- Call arguments up to and including the closing parenthesis.  A generator may stand alone without
parentheses of its own. -/
def readArguments (fuel : Nat) (tokens : List Token) :
    Option ((List Code × List (Keyword Code)) × List Token) :=
  match fuel with
  | 0 => none
  | fuel + 1 =>
    match expectOp ")" tokens with
    | some rest => some (([], []), rest)
    | none => readMoreArguments fuel true false false tokens

/-- One argument and those after it.  Only the `first` one can be a bare generator, and it is then
the only one.  After a keyword argument only starred and keyword arguments may follow, after an
unpacked mapping only keyword arguments. -/
def readMoreArguments (fuel : Nat) (first afterKeyword afterMapping : Bool) (tokens : List Token) :
    Option ((List Code × List (Keyword Code)) × List Token) :=
  match fuel with
  | 0 => none
  | fuel + 1 => do
    let ((arguments, keywords), keyword, mapping, rest) ←
      match tokens with
      | .op "**" :: rest => do
        let (value, rest) ← readExpression fuel rest
        some ((([] : List Code), [(⟨none, value⟩ : Keyword Code)]), true, true, rest)
      | .op "*" :: rest =>
        if afterMapping then none
        else do
          let (value, rest) ← readExpression fuel rest
          some (([.starred value], []), afterKeyword, afterMapping, rest)
      | .name id :: .op "=" :: rest => do
        let (value, rest) ← readExpression fuel rest
        some (([], [⟨some id, value⟩]), true, afterMapping, rest)
      | _ =>
        if afterKeyword then none
        else do
          let (value, rest) ← readNamed fuel tokens
          if first && atClause rest then
            let (clauses, rest) ← readClauses fuel rest
            if atOp ")" rest then
              some (([.generator value clauses], []), afterKeyword, afterMapping, rest)
            else none
          else some (([value], []), afterKeyword, afterMapping, rest)
    match expectOp ")" rest with
    | some rest => some ((arguments, keywords), rest)
    | none => do
      let rest ← expectOp "," rest
      match expectOp ")" rest with
      | some rest => some ((arguments, keywords), rest)
      | none => do
        let ((moreArguments, moreKeywords), rest) ←
          readMoreArguments fuel false keyword mapping rest
        some ((arguments ++ moreArguments, keywords ++ moreKeywords), rest)

/-- What stands between the brackets of an index: one slice, or a tuple of slices and starred
expressions. -/
def readSlices (fuel : Nat) (tokens : List Token) : Option (Code × List Token) :=
  match fuel with
  | 0 => none
  | fuel + 1 => do
    let (first, rest) ← readSlice fuel tokens
    if atOp "," rest then
      let (more, rest) ← readSliceTail fuel rest
      some (.tuple (first :: more), rest)
    else
      match first with
      | .starred _ => some (.tuple [first], rest)
      | _ => some (first, rest)

def readSliceTail (fuel : Nat) (tokens : List Token) : Option (List Code × List Token) :=
  match fuel with
  | 0 => none
  | fuel + 1 =>
    match tokens with
    | .op "," :: .op "]" :: rest => some ([], .op "]" :: rest)
    | .op "," :: rest => do
      let (slice, rest) ← readSlice fuel rest
      let (more, rest) ← readSliceTail fuel rest
      some (slice :: more, rest)
    | _ => some ([], tokens)

def readSlice (fuel : Nat) (tokens : List Token) : Option (Code × List Token) :=
  match fuel with
  | 0 => none
  | fuel + 1 =>
    match tokens with
    | .op "*" :: rest => do
      let (value, rest) ← readExpression fuel rest
      some (.starred value, rest)
    | .op ":" :: rest => do
      let ((upper, step), rest) ← readSliceBounds fuel rest
      some (.slice none upper step, rest)
    | .name _ :: .op ":=" :: _ => readNamed fuel tokens
    | _ => do
      let (value, rest) ← readNamed fuel tokens
      match rest with
      | .op ":" :: rest => do
        let ((upper, step), rest) ← readSliceBounds fuel rest
        some (.slice (some value) upper step, rest)
      | _ => some (value, rest)

def readSliceBounds (fuel : Nat) (tokens : List Token) :
    Option ((Option Code × Option Code) × List Token) :=
  match fuel with
  | 0 => none
  | fuel + 1 => do
    let (upper, rest) ← readBound fuel tokens
    match rest with
    | .op ":" :: rest => do
      let (step, rest) ← readBound fuel rest
      some ((upper, step), rest)
    | _ => some ((upper, none), rest)

def readBound (fuel : Nat) (tokens : List Token) : Option (Option Code × List Token) :=
  match fuel with
  | 0 => none
  | fuel + 1 =>
    if atOp ":" tokens || atOp "," tokens || atOp "]" tokens then some (none, tokens)
    else do
      let (value, rest) ← readExpression fuel tokens
      some (some value, rest)

/-- The parameters of an anonymous function up to its colon.  `kind` is what a plain name is at this
point, and `bare` says that a bare star still needs a name after it. -/
def readParameters (fuel : Nat) (kind : ParameterKind) (bare : Bool) (tokens : List Token) :
    Option (List (Parameter Code) × List Token) :=
  match fuel with
  | 0 => none
  | fuel + 1 =>
    match tokens with
    | .op ":" :: _ => if bare then none else some ([], tokens)
    | .op "**" :: .name id :: rest =>
      if bare then none
      else
        let rest := (expectOp "," rest).getD rest
        if atOp ":" rest then some ([⟨.keywordRest, id, none⟩], rest) else none
    | .op "*" :: .name id :: rest =>
      if kind = .keywordOnly then none
      else do
        let rest ← readParameterEnd rest
        let (more, rest) ← readParameters fuel .keywordOnly false rest
        some (⟨.rest, id, none⟩ :: more, rest)
    | .op "*" :: .op "," :: rest =>
      if kind = .keywordOnly then none else readParameters fuel .keywordOnly true rest
    | .name id :: rest => do
      let (default?, rest) ← match rest with
        | .op "=" :: rest => do
          let (value, rest) ← readExpression fuel rest
          some (some value, rest)
        | _ => some (none, rest)
      let rest ← readParameterEnd rest
      match rest with
      | .op "/" :: rest =>
        if kind = .ordinary then
          let rest ← readParameterEnd rest
          let (more, rest) ← readParameters fuel .ordinary false rest
          if more.any (·.kind = .positionalOnly) then none
          else some (⟨.positionalOnly, id, default?⟩ :: more, rest)
        else none
      | _ =>
        let (more, rest) ← readParameters fuel kind false rest
        let own : ParameterKind :=
          if kind = .ordinary && more.any (·.kind = .positionalOnly) then .positionalOnly else kind
        some (⟨own, id, default?⟩ :: more, rest)
    | _ => none

/-- Adjacent string literals, each as a constant or as the parts of a formatted one. -/
def readStrings (fuel : Nat) (tokens : List Token) :
    Option (List (Constant ⊕ List Code) × List Token) :=
  match fuel with
  | 0 => none
  | fuel + 1 =>
    match tokens with
    | .string token :: rest => do
      let piece ←
        if token.format then
          (readFormat fuel token.raw 0 token.body).map fun (parts, _) => Sum.inr parts
        else token.constant?.map Sum.inl
      let (more, rest) ← readStrings fuel rest
      some (piece :: more, rest)
    | _ => some ([], tokens)

/-- The parts of a formatted string's contents and what follows them: nothing at the outermost
level, a closing brace inside a field. -/
def readFormat (fuel : Nat) (raw : Bool) (depth : Nat) (s : List Char) :
    Option (List Code × List Char) :=
  match fuel with
  | 0 => none
  | fuel + 1 => do
    let (literal, rest) ← literalPiece raw (depth = 0) s
    let text ← if raw then some (Text.ofChars literal) else decodeText literal
    let before : List Code := if text.isEmpty then [] else [.constant (.str text)]
    match rest with
    | '\x7b' :: field =>
      if 2 ≤ depth then none
      else
        let (source, rest) ← fieldExpression {} field
        if source.all fun c => c = ' ' || c = '\t' || c = '\n' || c = '\x0c' then none
        else
          let tokens ← tokenize ('(' :: source ++ [')'])
          let (value, left) ← readStarExpressions fuel tokens
          if !left.isEmpty then none
          else
            let (letter, rest) ← conversion (afterSelfShow rest)
            let (spec, rest) ← match rest with
              | ':' :: rest => do
                let (parts, rest) ← readFormat fuel raw (depth + 1) rest
                some (some (Code.joined parts), rest)
              | _ => some (none, rest)
            match rest with
            | '\x7d' :: rest => do
              let (more, rest) ← readFormat fuel raw depth rest
              some (before ++ .formatted value letter spec :: more, rest)
            | _ => none
    | _ => if depth = 0 && !rest.isEmpty then none else some (before, rest)

end

def readTop (fuel : Nat) (tokens : List Token) : Option (Code × List Token) := do
  let (first, rest) ← readExpression fuel tokens
  if atOp "," rest then
    let (more, rest) ← readTopTail fuel rest
    some (.tuple (first :: more), rest)
  else some (first, rest)
where
  readTopTail (fuel : Nat) (tokens : List Token) : Option (List Code × List Token) :=
    match fuel with
    | 0 => none
    | fuel + 1 =>
      match tokens with
      | .op "," :: rest =>
        match readExpression (fuel + 1) rest with
        | some (value, rest) => do
          let (more, rest) ← readTopTail fuel rest
          some (value :: more, rest)
        | none => some ([], rest)
      | _ => some ([], tokens)

def parse (s : List Char) : Option Code := do
  let tokens ← tokenize s
  let (code, rest) ← readTop (40 * (s.length + 1)) tokens
  if rest.all (· = .newline) then some code else none

end AgentFlow.Target
