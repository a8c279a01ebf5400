import AgentFlow.Target.Literal

/-!
# Fields of formatted string literals

A formatted string literal alternates literal text and fields between braces.  These functions cut
its contents into pieces; reading the expression of a field is left to the expression reader.
-/

namespace AgentFlow.Target

/-- How the text of a field's expression is being scanned: the quote of an open string, whether it
is a triple one, and the brackets that are open. -/
structure FieldScan where
  quote : Option (Char × Bool) := none
  brackets : List Char := []

def closingBracket : Char → Char
  | '(' => ')'
  | '[' => ']'
  | _ => '\x7d'

/-- Splits a text into the expression at its start and what follows.  The expression ends at a
conversion mark, a colon, a closing brace or an equals sign outside strings and brackets; operators
that hold such characters do not end it.  Backslashes and comments are not allowed. -/
def fieldExpression (scan : FieldScan) (s : List Char) : Option (List Char × List Char) :=
  match s with
  | [] => none
  | c :: rest =>
    if c = '\\' then none
    else
      match scan.quote with
      | some (quote, triple) =>
        if c = quote then
          if triple then
            match rest with
            | a :: b :: rest' =>
              if a = quote ∧ b = quote then
                (fieldExpression { scan with quote := none } rest').map fun (body, left) =>
                  (c :: a :: b :: body, left)
              else
                (fieldExpression scan (a :: b :: rest')).map fun (body, left) => (c :: body, left)
            | _ => none
          else
            (fieldExpression { scan with quote := none } rest).map fun (body, left) =>
              (c :: body, left)
        else (fieldExpression scan rest).map fun (body, left) => (c :: body, left)
      | none =>
        if c = '"' ∨ c = '\x27' then
          match rest with
          | a :: b :: rest' =>
            if a = c ∧ b = c then
              (fieldExpression { scan with quote := some (c, true) } rest').map
                fun (body, left) => (c :: a :: b :: body, left)
            else
              (fieldExpression { scan with quote := some (c, false) } (a :: b :: rest')).map
                fun (body, left) => (c :: body, left)
          | [a] =>
            (fieldExpression { scan with quote := some (c, false) } [a]).map
              fun (body, left) => (c :: body, left)
          | [] => none
        else if c = '(' ∨ c = '[' ∨ c = '\x7b' then
          (fieldExpression { scan with brackets := c :: scan.brackets } rest).map
            fun (body, left) => (c :: body, left)
        else if c = '#' then none
        else
          match scan.brackets with
          | [] =>
            if (c = '!' ∨ c = '=' ∨ c = '<' ∨ c = '>') ∧ rest.head? = some '=' then
              match rest with
              | e :: rest' =>
                (fieldExpression scan rest').map fun (body, left) => (c :: e :: body, left)
              | [] => none
            else if c = '!' ∨ c = ':' ∨ c = '\x7d' ∨ c = '=' then some ([], c :: rest)
            else if c = ')' ∨ c = ']' then none
            else (fieldExpression scan rest).map fun (body, left) => (c :: body, left)
          | opening :: outer =>
            if c = ')' ∨ c = ']' ∨ c = '\x7d' then
              if c = closingBracket opening then
                (fieldExpression { scan with brackets := outer } rest).map
                  fun (body, left) => (c :: body, left)
              else none
            else (fieldExpression scan rest).map fun (body, left) => (c :: body, left)
termination_by s.length

/-- The literal text at the start of a formatted string's contents and what follows: the end, or the
brace that stopped it.  At the outermost level a doubled brace stands for one. -/
def literalPiece (raw outermost : Bool) (s : List Char) : Option (List Char × List Char) :=
  match s with
  | [] => some ([], [])
  | '\\' :: 'N' :: '\x7b' :: rest =>
    if raw then
      (literalPiece raw outermost ('\x7b' :: rest)).map fun (text, left) =>
        ('\\' :: 'N' :: text, left)
    else
      let name := rest.takeWhile isInnerName
      let closing := (rest.drop name.length).take 1
      (literalPiece raw outermost (rest.drop (name.length + 1))).map fun (text, left) =>
        ('\\' :: 'N' :: '\x7b' :: name ++ closing ++ text, left)
  | '\\' :: c :: rest =>
    if raw ∨ c = '\x7b' ∨ c = '\x7d' then
      (literalPiece raw outermost (c :: rest)).map fun (text, left) => ('\\' :: text, left)
    else (literalPiece raw outermost rest).map fun (text, left) => ('\\' :: c :: text, left)
  | c :: rest =>
    if c = '\x7b' ∨ c = '\x7d' then
      if outermost then
        if rest.head? = some c then
          (literalPiece raw outermost (rest.drop 1)).map fun (text, left) => (c :: text, left)
        else if c = '\x7d' then none
        else some ([], c :: rest)
      else some ([], c :: rest)
    else (literalPiece raw outermost rest).map fun (text, left) => (c :: text, left)
termination_by s.length
decreasing_by
  all_goals simp_wf
  all_goals try omega

/-- The conversion after a field's expression: its letter if there is one, and what follows. -/
def conversion (s : List Char) : Option (Option Char × List Char) :=
  match s with
  | '!' :: c :: rest => if c = 's' ∨ c = 'r' ∨ c = 'a' then some (some c, rest) else none
  | '!' :: [] => none
  | _ => some (none, s)

/-- What follows the equals sign that makes a field show its own text, or the text itself. -/
def afterSelfShow (s : List Char) : List Char :=
  match s with
  | '=' :: rest =>
    rest.dropWhile fun c => c = ' ' || c = '\t' || c = '\n' || c = '\x0c' || c = '\x0b' || c = '\r'
  | _ => s

end AgentFlow.Target
