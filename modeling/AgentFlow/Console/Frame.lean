import AgentFlow.Console.Wrap
import AgentFlow.Number.Binary64

/-!
# Panels and tables

A panel is a text in a frame with round corners.  A table has a title, a row of headings and rows of
cells.  What is wider than the terminal is made narrower: the text of a panel is folded, and the
widest columns of a table give up cells, their texts being cut.
-/

namespace AgentFlow.Console

/-- Whether a character ends a line when a text is measured. -/
def endsLine (c : CodePoint) : Bool :=
  c.toNat ∈ [0x0A, 0x1C, 0x1D, 0x1E, 0x85, 0x2028, 0x2029]

def longestLine (t : Text) : Nat :=
  let (longest, last) := t.foldl (fun (longest, current) c =>
    if endsLine c then (max longest current, 0) else (longest, current + c.cells)) (0, 0)
  max longest last

def rule (cells : Nat) : Text := Text.repeated cells "─"

/-! ## Panels -/

def panelLines (t : Text) : List Text :=
  let width := min (longestLine t) (terminalWidth - 4)
  ["╭" ++ rule (width + 2) ++ "╮"] ++
    (wrap .fold width t).map (fun line => "│ " ++ padCells width line ++ " │") ++
    ["╰" ++ rule (width + 2) ++ "╯"]

def panel (t : Text) : Text := (panelLines t).flatMap (· ++ "\n")

/-! ## Widths of columns -/

/-- Takes cells away from the columns that are as wide as the widest one, evenly, but at most a
number of cells from each. -/
def shrink (widest most : Nat) : List Nat → Nat → Nat → List Nat
  | [], _, _ => []
  | width :: rest, excess, columns =>
    if width = widest then
      let taken := min most (roundedQuotient excess columns)
      (width - taken) :: shrink widest most rest (excess - taken) (columns - 1)
    else width :: shrink widest most rest excess columns

def widest (widths : List Nat) : Nat := widths.foldl max 0

def total (widths : List Nat) : Nat := widths.foldl (· + ·) 0

/-- Makes columns narrower until they fit: the widest ones are brought to the next width below, or
as far as is needed.  Every round but the last takes at least one cell, so their sum is fuel enough.
-/
def collapse (limit : Nat) : Nat → List Nat → List Nat
  | 0, widths => widths
  | fuel + 1, widths =>
    let excess := total widths - limit
    if excess = 0 then widths
    else
      let top := widest widths
      let next := widest (widths.filter (· ≠ top))
      collapse limit fuel
        (shrink top (min excess (top - next)) widths excess (widths.count top))

/-! ## Tables -/

structure Table where
  title : Text
  headings : List Text
  rows : List (List Text)

namespace Table

/-- The widths of the columns, with one blank on each side. -/
def widths (table : Table) : List Nat :=
  let limit := terminalWidth - (table.headings.length + 1)
  let natural := table.headings.zipIdx.map fun (heading, index) =>
    min limit (widest ((heading :: table.rows.map (·.getD index [])).map longestLine) + 2)
  collapse limit (total natural) natural

def cellLines (width : Nat) (cell : Text) : List Text :=
  (wrap .ellipsis (width - 2) cell).map fun line => " " ++ padCells (width - 2) line ++ " "

/-- The lines of a row, which is as high as its highest cell. -/
def rowLines (widths : List Nat) (row : List Text) : List Text :=
  let cells := widths.zip row |>.map fun (width, cell) => (width, cellLines width cell)
  let height := widest (cells.map (·.2.length))
  (List.range height).map fun index =>
    "│" ++ Text.join "│" (cells.map fun (width, lines) =>
      lines.getD index (Text.repeated width " ")) ++ "│"

def border (left middle right : Text) (widths : List Nat) : Text :=
  left ++ Text.join middle (widths.map rule) ++ right

def centred (width : Nat) (t : Text) : Text :=
  padCells width (Text.repeated ((width - t.cells) / 2) " " ++ t)

def lines (table : Table) : List Text :=
  let widths := table.widths
  [centred (total widths + widths.length + 1) table.title, border "╭" "┬" "╮" widths] ++
    rowLines widths table.headings ++ [border "├" "┼" "┤" widths] ++
    table.rows.flatMap (rowLines widths) ++ [border "╰" "┴" "╯" widths]

def printed (table : Table) : Text := table.lines.flatMap (· ++ "\n")

end Table

end AgentFlow.Console
