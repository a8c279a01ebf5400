import AgentFlow.Statement.Basic

/-!
# Writing statements one after the other

A writer collects lines at a current depth.  Statements are written on it in order: the blocks of a
statement are written one level deeper, and after each of them the writer goes back to the level of
the statement.
-/

namespace AgentFlow

/-- The lines written so far, the depth of the next one, and the indentation of a level. -/
structure Writer where
  unit : Text := "  "
  depth : Nat := 0
  lines : List Text := []

namespace Writer

/-- Writes a line at the current depth; a line without text stays empty. -/
def writeln (writer : Writer) (text : Text) : Writer :=
  { writer with lines := writer.lines ++ [Line.write writer.unit ⟨writer.depth, text⟩] }

def extend (writer : Writer) (texts : List Text) : Writer := texts.foldl writeln writer

/-- Writes something one level deeper and goes back. -/
def indented (writer : Writer) (write : Writer → Writer) : Writer :=
  let inner := write { writer with depth := writer.depth + 1 }
  { inner with depth := inner.depth - 1 }

/-- Writes a header and the block under it, given how the statements of the block are written.  A
block without code gets a line that does nothing. -/
def under (writer : Writer) (header : Text) (body : Block) (write : Writer → Writer) : Writer :=
  (writer.writeln header).indented fun inner =>
    if Block.hasCode body then write inner else (write inner).writeln "pass"

end Writer

mutual

def Statement.writeOn : Statement → Writer → Writer
  | .raw texts, writer => writer.extend texts
  | .block body, writer => Block.writeOn body writer
  | .branch arms none, writer => Arms.writeOn "if " arms writer
  | .branch arms (some body), writer =>
    (Arms.writeOn "if " arms writer).under "else:" body (Block.writeOn body)
  | .loop condition body, writer =>
    writer.under ("while " ++ condition ++ ":") body (Block.writeOn body)
  | .guard condition continuation fallback true, writer =>
    (writer.under ("if " ++ condition ++ ":") continuation (Block.writeOn continuation)).under
      "else:" fallback (Block.writeOn fallback)
  | .guard condition continuation fallback false, writer =>
    (writer.under ("if " ++ condition ++ ":") fallback (Block.writeOn fallback)).under
      "else:" continuation (Block.writeOn continuation)
  | .ret value, writer => writer.writeln ("return " ++ value)
  | .attempt body errorName handler, writer =>
    (writer.under "try:" body (Block.writeOn body)).under
      ("except Exception as " ++ errorName ++ ":") handler (Block.writeOn handler)
termination_by structural statement => statement

def Block.writeOn : List Statement → Writer → Writer
  | [], writer => writer
  | statement :: rest, writer => Block.writeOn rest (statement.writeOn writer)
termination_by structural body => body

def Arms.writeOn (keyword : Text) : List (Text × List Statement) → Writer → Writer
  | [], writer => writer
  | (condition, body) :: rest, writer =>
    Arms.writeOn "elif " rest
      (writer.under (keyword ++ condition ++ ":") body (Block.writeOn body))
termination_by structural arms => arms

end

end AgentFlow
