import AgentFlow.Console.Emoji
import AgentFlow.Console.Style
import AgentFlow.Console.Wrap
import AgentFlow.Text.Quoted

/-!
# Markup

Text for the terminal may hold marks in brackets that open and close styles.  A mark starts with a
small letter, a number sign, a slash or an at sign, and holds no opening bracket.  A reverse solidus
before a mark makes it text, and two stand for one.  Without colours only the text between the marks
is shown, but a mark that closes nothing is an error.
-/

namespace AgentFlow.Console

/-- A mark in a text: the reverse solidi before it and what its brackets hold. -/
structure Mark where
  escapes : Nat
  body : Text

namespace Mark

def length (mark : Mark) : Nat := mark.escapes + mark.body.length + 2

def name (mark : Mark) : Text := mark.body.takeWhile (· ≠ ('=' : CodePoint))

def opens (c : CodePoint) : Bool :=
  (0x61 ≤ c.toNat && c.toNat ≤ 0x7A) || c = '#' || c = '/' || c = '@'

def ofStart? (t : Text) : Option Mark :=
  let escapes := (t.takeWhile (· = CodePoint.backslash)).length
  match t.drop escapes with
  | bracket :: first :: rest =>
    let body := rest.takeWhile fun (c : CodePoint) => c ≠ ']' && c ≠ '['
    if bracket = '[' && opens first && (rest.drop body.length).head? = some (']' : CodePoint) then
      some ⟨escapes, first :: body⟩
    else none
  | _ => none

end Mark

/-- A part of a text with markup: text, or a mark at a position. -/
inductive Part where
  | plain (t : Text)
  | mark (position : Nat) (mark : Mark)

/-- The parts that a mark with what stands before it gives. -/
def markParts (position : Nat) (mark : Mark) : List Part :=
  let doubled := mark.escapes / 2
  (if doubled = 0 then [] else [.plain (List.replicate doubled CodePoint.backslash)]) ++
    [if mark.escapes % 2 = 1 then .plain ("[" ++ mark.body ++ "]")
      else .mark (position + 2 * doubled) mark]

/-- The parts of a text from a position on, the first characters of which still belong to a mark.
The text before them that is not yet part of any is given in reverse. -/
def splitMarks (inside position : Nat) (pending : Text) : Text → List Part
  | [] => if pending.isEmpty then [] else [.plain pending.reverse]
  | c :: rest =>
    match inside with
    | inside + 1 => splitMarks inside (position + 1) pending rest
    | 0 =>
      match Mark.ofStart? (c :: rest) with
      | some mark =>
        (if pending.isEmpty then [] else [.plain pending.reverse]) ++ markParts position mark ++
          splitMarks (mark.length - 1) (position + 1) [] rest
      | none => splitMarks 0 (position + 1) (c :: pending) rest

/-- A text with brackets for escaped ones. -/
def unescapeBrackets : Text → Text
  | [] => []
  | [c] => [c]
  | c :: d :: rest =>
    if c = CodePoint.backslash && d = '[' then '[' :: unescapeBrackets rest
    else c :: unescapeBrackets (d :: rest)

inductive MarkupFault where
  | unmatched (body : Text) (position : Nat)
  | nothingOpen (position : Nat)
deriving DecidableEq, Repr

def MarkupFault.message : MarkupFault → Text
  | unmatched body position =>
    "closing tag '[" ++ body ++ "]' at position " ++ Text.ofNat position ++
      " doesn't match any open tag"
  | nothingOpen position =>
    "closing tag '[/]' at position " ++ Text.ofNat position ++ " has nothing to close"

/-- The open styles after a mark, the last one opened first. -/
def applyMark (styles : List Text) (position : Nat) (mark : Mark) :
    Except MarkupFault (List Text) :=
  match mark.name with
  | c :: rest =>
    if c = '/' then
      let style := Text.trim rest
      if style.isEmpty then
        match styles with
        | _ :: styles => .ok styles
        | [] => .error (.nothingOpen position)
      else if Style.normal style ∈ styles then .ok (styles.erase (Style.normal style))
      else .error (.unmatched mark.body position)
    else .ok (Style.normal (c :: rest) :: styles)
  | [] => .ok (Style.normal [] :: styles)

def plainText (styles : List Text) : List Part → Except MarkupFault Text
  | [] => .ok []
  | .plain t :: rest => do return withPictures (unescapeBrackets t) ++ (← plainText styles rest)
  | .mark position mark :: rest => do plainText (← applyMark styles position mark) rest

def unmarked (t : Text) : Except MarkupFault Text := do
  return sanitize (← plainText [] (splitMarks 0 0 [] t))

end AgentFlow.Console
