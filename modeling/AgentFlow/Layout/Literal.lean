import AgentFlow.Json.Value
import AgentFlow.Scalar

/-!
# Literals of generated code

A literal is a scalar, a list, a tuple, a dictionary, or a piece of code that stands for itself.
Containers are laid out with one item per line, indented relative to the first line, so that a
literal can be put at any depth.  A number that is not finite has no literal.
-/

namespace AgentFlow

inductive Literal where
  | scalar (value : Scalar)
  | code (source : Text)
  | list (items : List Literal)
  | tuple (items : List Literal)
  | dict (entries : List (Text × Literal))
deriving Inhabited, Repr

namespace Literal

instance : Coe Text Literal := ⟨fun value => .scalar (.str value)⟩

mutual

def ofJson : Json → Literal
  | .null => .scalar .null
  | .bool value => .scalar (.bool value)
  | .int value => .scalar (.int value)
  | .float value => .scalar (.float value)
  | .str value => .scalar (.str value)
  | .arr items => .list (ofItems items)
  | .obj entries => .dict (ofEntries entries)

def ofItems : List Json → List Literal
  | [] => []
  | item :: rest => ofJson item :: ofItems rest

def ofEntries : List (Text × Json) → List (Text × Literal)
  | [] => []
  | (key, item) :: rest => (key, ofJson item) :: ofEntries rest

end

mutual

def shown : Literal → Text
  | .scalar (.str value) => value.shown
  | .scalar value => value.spelled
  | .code source => source.shown
  | .list items => "[" ++ shownItems items ++ "]"
  | .tuple [item] => "(" ++ shown item ++ ",)"
  | .tuple items => "(" ++ shownItems items ++ ")"
  | .dict entries => "\x7b" ++ shownEntries entries ++ "\x7d"

def shownItems : List Literal → Text
  | [] => []
  | [item] => shown item
  | item :: next :: rest => shown item ++ ", " ++ shownItems (next :: rest)

def shownEntries : List (Text × Literal) → Text
  | [] => []
  | [(key, item)] => key.shown ++ ": " ++ shown item
  | (key, item) :: next :: rest =>
    key.shown ++ ": " ++ shown item ++ ", " ++ shownEntries (next :: rest)

end

inductive Fault where
  | nonFinite (value : Binary64)
  | notScalar (value : Literal)
deriving Repr

def Fault.message : Fault → Text
  | nonFinite value => "Non-finite number has no Python literal: " ++ value.toText
  | notScalar value => "Not a scalar literal: " ++ value.shown

def writeScalar : Scalar → Except Fault Text
  | .float value => if value.isFinite then .ok value.toText else .error (.nonFinite value)
  | value => .ok value.spelled

def writeAtom : Literal → Except Fault Text
  | .scalar value => writeScalar value
  | .code source => writeScalar (.str source)
  | value => .error (.notScalar value)

end Literal

/-- Puts a unit of indentation before every line but the first; empty lines stay empty. -/
def indentTail (unit : Text) (source : Text) : Text :=
  match source.lines with
  | [] => []
  | first :: rest =>
    Text.unlines (first :: rest.map fun line => if line.isEmpty then line else unit ++ line)

/-- The items of a container between its brackets, one per line. -/
def enclosed (opening closing : Text) (items : List Text) : Text :=
  opening ++ "\n" ++ Text.join ",\n" items ++ "\n" ++ closing

namespace Literal

mutual

/-- The code of a literal, containers being laid out with one item per line. -/
def layout (unit : Text) : Literal → Except Fault Text
  | .scalar value => writeScalar value
  | .code source => .ok source
  | .list [] => .ok "[]"
  | .tuple [] => .ok "[]"
  | .dict [] => .ok "\x7b\x7d"
  | .list items => do return enclosed "[" "]" (← layoutItems unit items)
  | .tuple items => do return enclosed "[" "]" (← layoutItems unit items)
  | .dict entries => do return enclosed "\x7b" "\x7d" (← layoutEntries unit entries)

def layoutItems (unit : Text) : List Literal → Except Fault (List Text)
  | [] => .ok []
  | item :: rest => do
    let source ← layout unit item
    let sources ← layoutItems unit rest
    return (unit ++ indentTail unit source) :: sources

def layoutEntries (unit : Text) : List (Text × Literal) → Except Fault (List Text)
  | [] => .ok []
  | (key, item) :: rest => do
    let source ← layout unit item
    let sources ← layoutEntries unit rest
    return (unit ++ key.doubleQuoted ++ ": " ++ indentTail unit source) :: sources

end

end Literal

/-! ## Calls and assignments of generated code

A call is written with one argument per line, an assignment as the lines of its source after the
target.
-/

/-- An argument of a call: its code, after a keyword unless the keyword is missing or empty. -/
structure Argument where
  keyword : Option Text := none
  source : Text

namespace Argument

def named (keyword source : Text) : Argument := { keyword := some keyword, source }

def positional (source : Text) : Argument := { source }

def layout (unit : Text) (argument : Argument) : Text :=
  let source := indentTail unit argument.source
  match argument.keyword with
  | some (c :: rest) => unit ++ (c :: rest) ++ "=" ++ source
  | _ => unit ++ source

end Argument

def layoutCall (function : Text) (arguments : List Argument) (unit : Text) : Text :=
  if arguments.isEmpty then function ++ "()"
  else enclosed (function ++ "(") ")" (arguments.map (Argument.layout unit))

def assignmentLines (target source : Text) : List Text := (target ++ " = " ++ source : Text).lines

end AgentFlow
