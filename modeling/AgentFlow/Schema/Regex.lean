import AgentFlow.Schema.Regex.Escape
import AgentFlow.Text.Identifier

/-!
# Regular expressions

Decides whether a text is a regular expression: groups are balanced, sets and ranges are well
formed, repetitions follow something, references name closed groups, and what is looked for
backwards has a fixed width.  Nothing is matched here.
-/

namespace AgentFlow.Schema.Regex

/-! ## Repetitions -/

def bound (digits : Text) (left : List Sign) : Reading (Option Nat) :=
  if digits.isEmpty then .ok none
  else if Numeral.digitLimit < digits.length then defectBefore (.tooManyDigits digits.length) left
  else if unbounded ≤ digitsValue 10 digits then defectBefore .tooManyRepetitions left
  else .ok (some (digitsValue 10 digits))

/-- The bounds of a repetition in braces, after the opening brace; nothing if the brace is a plain
character. -/
def braces (signs : List Sign) : Reading (Option ((Nat × Nat) × List Sign)) :=
  if startsWith '\x7d' signs then .ok none
  else
    let (low, afterLow) := takePlain signs.length isDecimal signs
    let (high, left) :=
      if startsWith ',' afterLow then takePlain signs.length isDecimal (afterLow.drop 1)
      else (low, afterLow)
    if startsWith '\x7d' left then do
      let left := left.drop 1
      let least := (← bound low left).getD 0
      let most := (← bound high left).getD unbounded
      if most < least then malformed else .ok (some ((least, most), left))
    else .ok none

def repeatPiece (piece : Piece) (least most : Nat) : Reading Piece :=
  match piece with
  | .item width => .ok (.repetition (width.times least most))
  | _ => malformed

/-- Skips the mark after a repetition that says how greedy it is. -/
def skipGreed (signs : List Sign) : List Sign :=
  if startsWith '?' signs || startsWith '+' signs then signs.drop 1 else signs

/-! ## Flags -/

def flagLetters : List Char := ['i', 'L', 'm', 's', 'x', 'a', 't', 'u']

def flag? : Sign → Option Char
  | .plain (.scalar c) => if c ∈ flagLetters then some c else none
  | _ => none

def takeFlags : List Sign → List Char × List Sign
  | [] => ([], [])
  | sign :: rest =>
    match flag? sign with
    | some c =>
      let (more, left) := takeFlags rest
      (c :: more, left)
    | none => ([], sign :: rest)

/-- Reads the flags of a group: those for the whole pattern, or those turned on and off for the
group, with what follows. -/
def groupFlags (signs : List Sign) : Reading ((List Char × Option (List Char)) × List Sign) :=
  let (on, left) := takeFlags signs
  let rest := left.drop 1
  if 'L' ∈ on || ('a' ∈ on && 'u' ∈ on) then malformed
  else if startsWith ')' left then if on.isEmpty then malformed else .ok ((on, none), rest)
  else if 't' ∈ on then malformed
  else if startsWith ':' left then if on.isEmpty then malformed else .ok ((on, some []), rest)
  else if startsWith '-' left then
    let (off, left) := takeFlags rest
    if off.isEmpty || off.any (· ∈ ['a', 'u', 'L', 't']) || off.any (· ∈ on) then malformed
    else if startsWith ':' left then .ok ((on, some off), left.drop 1)
    else malformed
  else malformed

/-! ## Conditions -/

/-- The number that a condition names a group by.  White space around it, a plus sign, single
underscores between digits and the digits of all scripts are accepted. -/
def groupNumber? (name : Text) : Option Nat := do
  let body := name.withoutMargin
  let unsigned : Text := if body.head? = some ('+' : CodePoint) then body.drop 1 else body
  let parts := Text.splitOn '_' unsigned
  let digits := parts.flatten
  if parts.any List.isEmpty || Numeral.digitLimit < digits.length then none
  else digits.foldlM (fun n c => (c.decimalValue?).map (n * 10 + ·)) 0

/-- The context of a conditional group, where the condition names a group by its name or its number.
A number may belong to a group that comes later. -/
def condition (context : Context) (name : Text) : Reading Context :=
  if name.isIdentifier then
    match context.names.lookup name with
    | some number => do
      if context.behind.isSome then
        let _ ← context.refer number
      .ok context
    | none => malformed
  else
    match groupNumber? name with
    | none | some 0 => malformed
    | some number => do
      if context.behind.isSome then
        let _ ← context.refer number
      .ok { context with mentioned := number :: context.mentioned }

/-! ## Patterns -/

/-- Whether a code point is ignored where white space is. -/
def isIgnored (c : CodePoint) : Bool := c = ' ' || (9 ≤ c.toNat && c.toNat ≤ 13)

/-- The width of what was read, what is known then, and what is left. -/
abbrev Progress := Width × Context × List Sign

mutual

def alternatives (fuel : Nat) (context : Context) (verbose top : Bool) (signs : List Sign) :
    Reading Progress :=
  match fuel with
  | 0 => malformed
  | fuel + 1 => do
    let (width, context, left) ← sequence fuel context verbose top .nothing .zero signs
    moreAlternatives fuel context verbose top width left

def moreAlternatives (fuel : Nat) (context : Context) (verbose outermost : Bool) (width : Width)
    (signs : List Sign) : Reading Progress :=
  match fuel with
  | 0 => malformed
  | fuel + 1 =>
    if startsWith '|' signs then do
      let verbose := if outermost then 'x' ∈ context.flags else verbose
      let (next, context, left) ←
        sequence fuel context verbose false .nothing .zero (signs.drop 1)
      moreAlternatives fuel context verbose outermost (width.choice next) left
    else .ok (width, context, signs)

/-- Reads a sequence of pieces; `before` is the width of all pieces but the last one. -/
def sequence (fuel : Nat) (context : Context) (verbose top : Bool) (last : Piece) (before : Width)
    (signs : List Sign) : Reading Progress :=
  match fuel with
  | 0 => malformed
  | fuel + 1 =>
    let proceed (context : Context) (piece : Piece) (left : List Sign) : Reading Progress :=
      sequence fuel context verbose top piece (before.add last.width) left
    let repeated (least most : Nat) (left : List Sign) : Reading Progress := do
      let piece ← repeatPiece last least most
      sequence fuel { context with repeats := true } verbose top piece before (skipGreed left)
    match signs with
    | [] => .ok (before.add last.width, context, [])
    | .dangling :: _ => malformed
    | .escaped c :: rest => do
      let (piece, left) ← escape context c rest
      proceed context piece left
    | .plain c :: rest =>
      if c = '|' || c = ')' then .ok (before.add last.width, context, signs)
      else if verbose && isIgnored c then sequence fuel context verbose top last before rest
      else if verbose && c = '#' then do
        sequence fuel context verbose top last before (← skipLine rest)
      else if c = '[' then do
        let members := if startsWith '^' rest then rest.drop 1 else rest
        proceed context (.item .one) (← set (rest.length + 1) true members)
      else if c = '*' then repeated 0 unbounded rest
      else if c = '+' then repeated 1 unbounded rest
      else if c = '?' then repeated 0 1 rest
      else if c = '\x7b' then do
        match ← braces rest with
        | none => proceed context (.item .one) rest
        | some ((least, most), left) => repeated least most left
      else if c = '(' then
        if startsWith '?' rest then
          extension fuel context verbose top last before (rest.drop 1)
        else do
          let (width, context, left) ← group fuel context verbose none rest
          proceed context (.item width) left
      else if c = '^' || c = '$' then proceed context .place rest
      else proceed context (.item .one) rest

def group (fuel : Nat) (context : Context) (verbose : Bool) (name : Option Text)
    (signs : List Sign) : Reading Progress :=
  match fuel with
  | 0 => malformed
  | fuel + 1 =>
    let number := context.next
    let known : Bool := match name with
      | some name => context.names.any (·.1 = name)
      | none => false
    if known then malformed
    else do
      let names := match name with
        | some name => (name, number) :: context.names
        | none => context.names
      let (width, context, left) ←
        enclosed fuel { context with next := number + 1, names } verbose signs
      .ok (width, { context with closed := (number, width) :: context.closed }, left)

def enclosed (fuel : Nat) (context : Context) (verbose : Bool) (signs : List Sign) :
    Reading Progress :=
  match fuel with
  | 0 => malformed
  | fuel + 1 => do
    let (width, context, left) ← alternatives fuel context verbose false signs
    if startsWith ')' left then .ok (width, context, left.drop 1) else malformed

/-- Reads a group that starts with a question mark, and the rest of the sequence. -/
def extension (fuel : Nat) (context : Context) (verbose top : Bool) (last : Piece)
    (before : Width) (signs : List Sign) : Reading Progress :=
  match fuel with
  | 0 => malformed
  | fuel + 1 =>
    let proceed (context : Context) (piece : Piece) (left : List Sign) : Reading Progress :=
      sequence fuel context verbose top piece (before.add last.width) left
    let rest := signs.drop 1
    let inner := signs.drop 2
    if startsWith 'P' signs then
      if startsWith '<' rest then do
        let (name, body) ← takeName '>' inner
        if name.isIdentifier then
          let (width, context, left) ← group fuel context verbose (some name) body
          proceed context (.item width) left
        else malformed
      else if startsWith '=' rest then do
        let (name, left) ← takeName ')' inner
        match context.names.lookup name with
        | some number => proceed context (.item (← context.refer number)) left
        | none => malformed
      else malformed
    else if startsWith ':' signs || startsWith '>' signs then do
      let (width, context, left) ← enclosed fuel context verbose rest
      proceed context (.item width) left
    else if startsWith '#' signs then do
      let (_, left) ← takeUntil ')' rest
      sequence fuel context verbose top last before left
    else if startsWith '=' signs || startsWith '!' signs then do
      let (_, context, left) ← enclosed fuel context verbose rest
      proceed context (.item .zero) left
    else if startsWith '<' signs then
      if startsWith '=' rest || startsWith '!' rest then do
        let outer := context.behind
        let (width, context, left) ←
          enclosed fuel { context with behind := some (outer.getD context.next) } verbose inner
        proceed { context with behind := outer, backward := width :: context.backward }
          (.item .zero) left
      else malformed
    else if startsWith '(' signs then do
      let (name, body) ← takeName ')' rest
      let (width, context, left) ←
        sequence fuel (← condition context name) verbose false .nothing .zero body
      if startsWith '|' left then
        let (second, context, left) ←
          sequence fuel context verbose false .nothing .zero (left.drop 1)
        if startsWith ')' left then
          proceed context (.item (width.choice second)) (left.drop 1)
        else malformed
      else if startsWith ')' left then proceed context (.item ⟨0, width.most⟩) (left.drop 1)
      else malformed
    else do
      let ((on, off?), left) ← groupFlags signs
      match off? with
      | none =>
        if top && last = .nothing then
          let flags := on ++ context.flags
          sequence fuel { context with flags } ('x' ∈ flags) top last before left
        else malformed
      | some off =>
        let (width, context, left) ←
          enclosed fuel context ((verbose || 'x' ∈ on) && 'x' ∉ off) left
        proceed context (.item width) left

end

def defect? (pattern : Text) : Option Defect :=
  let signs := signs pattern
  match alternatives (8 * (signs.length + 2)) {} false true signs with
  | .ok (_, context, left) => context.verdict left
  | .error defect => some defect

end AgentFlow.Schema.Regex
