import AgentFlow.Text.Basic

/-!
# Statements of a generated body

The body of the generated entry point is a tree of statements.  Everything that can hold other
statements holds blocks: lists of statements that run one after the other.
-/

namespace AgentFlow

/-- A statement of generated code.  A branch runs its first arm whose condition holds, or what is
written for the case that none does.  A guard runs its continuation when the condition has the value
that it asks for, and its fallback otherwise. -/
inductive Statement where
  | raw (lines : List Text)
  | block (body : List Statement)
  | branch (arms : List (Text × List Statement)) (orelse : Option (List Statement))
  | loop (condition : Text) (body : List Statement)
  | guard (condition : Text) (continuation fallback : List Statement) (continueWhen : Bool)
  | ret (value : Text)
  | attempt (body : List Statement) (errorName : Text) (handler : List Statement)
deriving Inhabited, Repr

abbrev Block := List Statement

/-- Whether a line is more than white space and a comment. -/
def Text.isCode (line : Text) : Bool := !line.isBlank && !line.trimStart.startsWith "#"

mutual

/-- Whether a statement holds code; blank lines and comments are none. -/
def Statement.hasCode : Statement → Bool
  | .raw lines => lines.any Text.isCode
  | .block body => Block.hasCode body
  | _ => true

def Block.hasCode : Block → Bool
  | [] => false
  | statement :: rest => statement.hasCode || Block.hasCode rest

end

/-! ## The lines of statements

Every line of generated code has a depth, and the blocks of a statement lie one level deeper than
the statement itself.  A block without code gets a line that does nothing, because the generated
language has no empty blocks.  The written form of a line starts with a unit of indentation for
every level; a line without text stays empty.
-/

/-- A line of code at a depth. -/
structure Line where
  depth : Nat
  text : Text
deriving DecidableEq, Repr

def Line.write (unit : Text) (line : Line) : Text :=
  if line.text.isEmpty then [] else Text.repeated line.depth unit ++ line.text

/-- The lines of a block under a header, with a line that does nothing when the block has no code.
-/
def Block.filled (body : Block) (depth : Nat) (lines : List Line) : List Line :=
  if Block.hasCode body then lines else lines ++ [⟨depth, "pass"⟩]

mutual

def Statement.lines (depth : Nat) : Statement → List Line
  | .raw texts => texts.map (Line.mk depth)
  | .block body => Block.lines depth body
  | .branch arms none => Arms.lines depth "if " arms
  | .branch arms (some body) =>
    Arms.lines depth "if " arms ++
      ⟨depth, "else:"⟩ :: Block.filled body (depth + 1) (Block.lines (depth + 1) body)
  | .loop condition body =>
    ⟨depth, "while " ++ condition ++ ":"⟩ ::
      Block.filled body (depth + 1) (Block.lines (depth + 1) body)
  | .guard condition continuation fallback true =>
    ⟨depth, "if " ++ condition ++ ":"⟩ ::
      Block.filled continuation (depth + 1) (Block.lines (depth + 1) continuation) ++
      ⟨depth, "else:"⟩ :: Block.filled fallback (depth + 1) (Block.lines (depth + 1) fallback)
  | .guard condition continuation fallback false =>
    ⟨depth, "if " ++ condition ++ ":"⟩ ::
      Block.filled fallback (depth + 1) (Block.lines (depth + 1) fallback) ++
      ⟨depth, "else:"⟩ ::
        Block.filled continuation (depth + 1) (Block.lines (depth + 1) continuation)
  | .ret value => [⟨depth, "return " ++ value⟩]
  | .attempt body errorName handler =>
    ⟨depth, "try:"⟩ :: Block.filled body (depth + 1) (Block.lines (depth + 1) body) ++
      ⟨depth, "except Exception as " ++ errorName ++ ":"⟩ ::
        Block.filled handler (depth + 1) (Block.lines (depth + 1) handler)
termination_by structural statement => statement

def Block.lines (depth : Nat) : List Statement → List Line
  | [] => []
  | statement :: rest => statement.lines depth ++ Block.lines depth rest
termination_by structural body => body

/-- The lines of the arms of a branch, the first of them under the given keyword. -/
def Arms.lines (depth : Nat) (keyword : Text) : List (Text × List Statement) → List Line
  | [] => []
  | (condition, body) :: rest =>
    ⟨depth, keyword ++ condition ++ ":"⟩ ::
      Block.filled body (depth + 1) (Block.lines (depth + 1) body) ++
      Arms.lines depth "elif " rest
termination_by structural arms => arms

end

def Statement.render (unit : Text) (depth : Nat) (statement : Statement) : List Text :=
  (statement.lines depth).map (Line.write unit)

end AgentFlow
