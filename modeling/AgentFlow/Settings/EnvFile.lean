import AgentFlow.Text.Basic

/-!
# Files of environment variables

Each line binds a key by an equals sign to a value, which may stand in quotes.  Comments start with
a number sign, and `export` may stand before a key.  A line that is no binding is skipped.  A value
may refer to other variables by `$` and a name in braces, with a default after `:-`.
-/

namespace AgentFlow.Settings.EnvFile

def isBreak (c : CodePoint) : Bool := c = '\n' || c = '\r'

/-- Whether a code point is white space within a line. -/
def isInlineBlank (c : CodePoint) : Bool := c.isBlank && !isBreak c

def skipInline (s : Text) : Text := s.dropWhile isInlineBlank

def lineEnd? (s : Text) : Option Text :=
  match skipInline s with
  | [] => some []
  | c :: rest =>
    if c = '\n' then some rest
    else if c = '\r' then
      match rest with
      | next :: rest' => if next = '\n' then some rest' else some rest
      | [] => some []
    else none

def skipComment (s : Text) : Text :=
  match skipInline s with
  | c :: rest => if c = '#' then rest.dropWhile (!isBreak ·) else s
  | [] => s

def skipLine (s : Text) : Text := (s.dropWhile (!isBreak ·)).drop 1

def skipExport (s : Text) : Text :=
  if s.startsWith "export" then
    let rest := s.drop 6
    match rest with
    | c :: _ => if isInlineBlank c then skipInline rest else s
    | [] => s
  else s

/-- The text up to a closing quote, which a backslash may protect, and what follows the quote. -/
def quoted? (quote : CodePoint) : Text → Option (Text × Text)
  | [] => none
  | [c] => if c = quote then some ([], []) else none
  | c :: next :: rest =>
    if c = '\\' ∧ next = quote then
      match quoted? quote rest with
      | some (body, left) => some (c :: next :: body, left)
      | none => some ([c], rest)
    else if c = quote then some ([], next :: rest)
    else (quoted? quote (next :: rest)).map fun (body, left) => (c :: body, left)

def escapeLetter? (c : CodePoint) : Option CodePoint :=
  if c = '\\' || c = '\x27' || c = '"' then some c
  else if c = 'a' then some (CodePoint.ofNat 7)
  else if c = 'b' then some (CodePoint.ofNat 8)
  else if c = 'f' then some (CodePoint.ofNat 12)
  else if c = 'n' then some (CodePoint.ofNat 10)
  else if c = 'r' then some (CodePoint.ofNat 13)
  else if c = 't' then some (CodePoint.ofNat 9)
  else if c = 'v' then some (CodePoint.ofNat 11)
  else none

/-- Replaces escapes; inside single quotes only a backslash and a single quote can be escaped. -/
def unescape (single : Bool) : Text → Text
  | [] => []
  | [c] => [c]
  | c :: next :: rest =>
    if c = '\\' ∧ (!single || next = '\\' || next = '\x27') then
      match escapeLetter? next with
      | some meant => meant :: unescape single rest
      | none => c :: unescape single (next :: rest)
    else c :: unescape single (next :: rest)

/-- A value without quotes: it ends before a comment that follows white space. -/
def unquoted (line : Text) : Text :=
  let rec cut : Text → Text
    | [] => []
    | c :: rest =>
      if c.isBlank ∧ (Text.trimStart rest).startsWith "#" then [] else c :: cut rest
  Text.trimEnd (cut line)

def key? (s : Text) : Option (Option Text × Text) :=
  match s with
  | [] => none
  | c :: rest =>
    if c = '#' then some (none, s)
    else if c = '\x27' then
      let name := rest.takeWhile (· ≠ ('\x27' : CodePoint))
      let left := rest.drop name.length
      if name.isEmpty || left.isEmpty then none else some (some name, left.drop 1)
    else
      let name := s.takeWhile fun (c : CodePoint) => c ≠ '=' && c ≠ '#' && !c.isBlank
      if name.isEmpty then none else some (some name, s.drop name.length)

def value? (s : Text) : Option (Text × Text) :=
  match s with
  | [] => some ([], [])
  | c :: rest =>
    if c = '\x27' then (quoted? '\x27' rest).map fun (body, left) => (unescape true body, left)
    else if c = '"' then (quoted? '"' rest).map fun (body, left) => (unescape false body, left)
    else if isBreak c then some ([], s)
    else
      let line := s.takeWhile (!isBreak ·)
      some (unquoted line, s.drop line.length)

/-- A result, or the place at which reading stopped. -/
def orStop {α : Type} (place : Text) : Option α → Except Text α
  | some value => .ok value
  | none => .error place

/-- Reads an equals sign and the value after it, if there is one. -/
def assigned (s : Text) : Except Text (Option Text × Text) :=
  match s with
  | c :: rest =>
    if c = '=' then do
      let (value, left) ← orStop (skipInline rest) (value? (skipInline rest))
      return (some value, left)
    else .ok (none, s)
  | [] => .ok (none, s)

def binding (s : Text) : Except Text (Option (Text × Option Text) × Text) := do
  let start := skipExport s
  let (key, left) ← orStop start (key? start)
  let left := skipInline left
  let (value, left) ← assigned left
  let left := skipComment left
  let next ← orStop left (lineEnd? left)
  return (key.map (·, value), next)

/-- The bindings of a file.  The fuel bounds the number of lines. -/
def bindingsFrom : Nat → Text → List (Text × Option Text)
  | 0, _ => []
  | fuel + 1, s =>
    let s := Text.trimStart s
    if s.isEmpty then []
    else
      match binding s with
      | .ok (some found, left) => found :: bindingsFrom fuel left
      | .ok (none, left) => bindingsFrom fuel left
      | .error left => bindingsFrom fuel (skipLine left)

def expandFrom (bound : List (Text × Text)) : Nat → Text → Text
  | 0, s => s
  | fuel + 1, s =>
    match s with
    | dollar :: brace :: rest =>
      if dollar = '$' ∧ brace = '\x7b' then
        let inner := rest.takeWhile (· ≠ ('\x7d' : CodePoint))
        let after := rest.drop inner.length
        let name := inner.takeWhile (· ≠ (':' : CodePoint))
        let tail := inner.drop name.length
        if after.isEmpty || !(tail.isEmpty || Text.startsWith tail ":-") then
          dollar :: expandFrom bound fuel (brace :: rest)
        else
          (bound.lookup name).getD (tail.drop 2) ++ expandFrom bound fuel (after.drop 1)
      else dollar :: expandFrom bound fuel (brace :: rest)
    | s => s

/-- Sets a variable, a known one keeping its place. -/
def assign {α : Type} (bound : List (Text × α)) (name : Text) (value : α) : List (Text × α) :=
  if bound.any (·.1 = name) then
    bound.map fun entry => if entry.1 = name then (name, value) else entry
  else bound ++ [(name, value)]

/-- The variables of a file, in which references see the variables before them and those of the
environment.  A key without an equals sign is a variable without a value. -/
def bindings (environment : List (Text × Text)) (file : Text) : List (Text × Option Text) :=
  (bindingsFrom (file.length + 1) file).foldl (fun known (name, value?) =>
    let bound := known.map (fun (name, value?) => (name, value?.getD [])) ++ environment
    assign known name (value?.map fun value => expandFrom bound (value.length + 1) value)) []

end AgentFlow.Settings.EnvFile
