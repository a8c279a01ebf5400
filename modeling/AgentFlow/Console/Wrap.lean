import AgentFlow.Console.Width
import AgentFlow.Text.Basic

/-!
# Wrapping text

Words, each with the white space after it, are placed greedily in lines of a given width; the white
space of a line's last word may stand beyond the edge and is then cut.  A word that fits on no line
is folded into pieces of full width or cut with an ellipsis.
-/

namespace AgentFlow.Console

inductive Overflow where
  | fold
  | ellipsis
deriving DecidableEq, Repr

/-- A text without the control characters that would move the cursor. -/
def sanitize (t : Text) : Text :=
  t.filter fun c => c.toNat ∉ [7, 8, 11, 12, 13]

/-! ## Fitting a line -/

/-- The longest beginning of a text that fits in a number of cells, the last cell being blank where
a wide character would have been halved. -/
def cropCells (limit : Nat) : Text → Text
  | [] => []
  | c :: rest =>
    if c.cells ≤ limit then c :: cropCells (limit - c.cells) rest
    else Text.repeated limit " "

def padCells (width : Nat) (t : Text) : Text := t ++ Text.repeated (width - t.cells) " "

def truncate (overflow : Overflow) (width : Nat) (line : Text) : Text :=
  if line.cells ≤ width then line
  else
    match overflow with
    | .fold => cropCells width line
    | .ellipsis => cropCells (width - 1) line ++ "…"

/-- A line without the white space at its end that goes beyond a number of characters. -/
def cropBlanks (size : Nat) (line : Text) : Text :=
  let blanks := (line.reverse.takeWhile CodePoint.isBlank).length
  line.take (line.length - min blanks (line.length - size))

/-! ## Tabulators -/

def tabStop : Nat := 8

/-- A line with blanks up to the next stop for each tabulator, from a column on. -/
def expandTabs (column : Nat) : Text → Text
  | [] => []
  | c :: rest =>
    if c = '\t' then
      let blanks := tabStop - column % tabStop
      Text.repeated blanks " " ++ expandTabs (column + blanks) rest
    else c :: expandTabs (column + c.cells) rest

/-! ## Placing words -/

/-- The words of a line from the right: white space belongs to the word before it. -/
def gather (c : CodePoint) (pieces : List Text) : List Text :=
  match pieces with
  | [] => [[c]]
  | piece :: rest =>
    if c.isBlank && !(piece.headD c).isBlank then [c] :: piece :: rest
    else (c :: piece) :: rest

/-- The words of a line, each with the white space after it, the first one also with the white space
before it.  A blank line has no words. -/
def pieces (line : Text) : List Text :=
  match line.foldr gather [] with
  | first :: second :: rest =>
    if first.isBlank then (first ++ second) :: rest else first :: second :: rest
  | [piece] => if piece.isBlank then [] else [piece]
  | [] => []

/-- A word cut into pieces of at most a width, the first one last. -/
def chopReversed (width : Nat) (word : Text) : List Text :=
  (word.foldl (fun (pieces, used) c =>
    match pieces with
    | piece :: rest =>
      if used + c.cells ≤ width then ((piece ++ [c]) :: rest, used + c.cells)
      else ([c] :: piece :: rest, c.cells)
    | [] => ([[c]], c.cells)) (([] : List Text), 0)).1

/-- A layout in progress: the finished lines, the last one first, and the line being filled with the
cells it takes. -/
structure Filling where
  finished : List Text
  current : Text
  used : Nat

namespace Filling

/-- Ends the line being filled, unless nothing has been placed yet. -/
def endLine (filling : Filling) : List Text :=
  if filling.finished.isEmpty && filling.current.isEmpty then []
  else filling.current :: filling.finished

def place (overflow : Overflow) (width : Nat) (filling : Filling) (word : Text) : Filling :=
  let size := word.trimEnd.cells
  if filling.used + size ≤ width then
    { filling with current := filling.current ++ word, used := filling.used + word.cells }
  else if width < size && overflow = .fold then
    match chopReversed width word with
    | last :: earlier =>
      { finished := earlier ++ filling.endLine, current := last, used := last.cells }
    | [] => filling
  else { finished := filling.endLine, current := word, used := word.cells }

end Filling

def divide (overflow : Overflow) (width : Nat) (line : Text) : List Text :=
  match pieces line with
  | [] => [line]
  | words =>
    let filling := words.foldl (Filling.place overflow width) ⟨[], [], 0⟩
    (filling.current :: filling.finished).reverse

def wrap (overflow : Overflow) (width : Nat) (t : Text) : List Text :=
  t.lines.flatMap fun line =>
    (divide overflow width (expandTabs 0 line)).map fun part =>
      truncate overflow width (cropBlanks width part)

def terminalWidth : Nat := 80

def printed (t : Text) : Text :=
  (wrap .fold terminalWidth (sanitize t)).flatMap (· ++ "\n")

end AgentFlow.Console
