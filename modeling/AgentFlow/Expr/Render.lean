import AgentFlow.Expr.Fault
import AgentFlow.Expr.Scope
import AgentFlow.Expr.Tree

/-!
# Writing expressions in the generated language

Field access becomes subscripting by a quoted key, the logical operators become words, and
parentheses are put exactly where an operand binds less tightly than its place requires.  Both sides
of a comparison must bind tighter, because comparisons would be chained otherwise.
-/

namespace AgentFlow.Expr

/-- How tightly a piece of generated code holds together, the loosest first. -/
inductive Binding where
  | or
  | and
  | not
  | compare
  | add
  | mul
  | unary
  | access
  | atom
deriving DecidableEq, Repr

def Binding.rank : Binding → Nat
  | or => 1
  | and => 2
  | not => 3
  | compare => 4
  | add => 5
  | mul => 6
  | unary => 7
  | access => 8
  | atom => 9

structure Rendered where
  text : Text
  binding : Binding

def Rendered.at (code : Rendered) (required : Binding) : Text :=
  if code.binding.rank < required.rank then "(" ++ code.text ++ ")" else code.text

def Arith.binding : Arith → Binding
  | add | sub => .add
  | mul | div | mod => .mul

/-- The binding that the right operand of an arithmetic operator requires. -/
def Arith.rightBinding : Arith → Binding
  | add | sub => .mul
  | mul | div | mod => .unary

def renderName (scope : Scope) (id : Text) : Except Fault Text :=
  if id = workflowRoot then .ok workflowRoot
  else if id = stateRoot then .ok stateRoot
  else if id = inputRoot then .ok scope.inputAlias
  else .error (.unknownName id)

/-- Checks that a field accessed directly on a record is declared. -/
def checkField (scope : Scope) (target : Expr) (key : Text) : Except Fault Unit :=
  match target with
  | .name id =>
    if id = workflowRoot ∧ key ∉ scope.inputFields then .error (.unknownInputField key)
    else if id = stateRoot ∧ key ∉ scope.stateFields then .error (.undeclaredState key)
    else .ok ()
  | _ => .ok ()

mutual

def render (scope : Scope) : Expr → Except Fault Rendered
  | .literal value =>
    match value with
    | .decimal x =>
      if x.value.isFinite then .ok ⟨x.value.toText, .atom⟩ else .error (.outOfRange x)
    | value => .ok ⟨value.scalar.spelled, .atom⟩
  | .name id => do return ⟨← renderName scope id, .atom⟩
  | .member target key => do
    checkField scope target key
    let code ← render scope target
    return ⟨code.at .access ++ "[" ++ key.text.doubleQuoted ++ "]", .access⟩
  | .index target position => do
    let code ← render scope target
    let inner ← render scope position
    return ⟨code.at .access ++ "[" ++ inner.text ++ "]", .access⟩
  | .call function arguments =>
    match helpers.lookup function with
    | none => .error (.unknownFunction function)
    | some helper =>
      match arguments with
      | [argument] => do
        let inner ← render scope argument
        return ⟨helper ++ "(" ++ inner.text ++ ")", .access⟩
      | _ => .error (.argumentCount function)
  | .unary sign operand => do
    let code ← render scope operand
    match sign with
    | .not => return ⟨"not " ++ code.at .not, .not⟩
    | .minus => return ⟨"-" ++ code.at .unary, .unary⟩
    | .plus => return ⟨"+" ++ code.at .unary, .unary⟩
  | .binary operator left right => do
    let first ← render scope left
    let second ← render scope right
    return ⟨first.at operator.binding ++ " " ++ operator.text ++ " " ++
      second.at operator.rightBinding, operator.binding⟩
  | .compare comparison left right => do
    let first ← render scope left
    let second ← render scope right
    return ⟨first.at .add ++ " " ++ comparison.text ++ " " ++ second.at .add, .compare⟩
  | .logical .and left right => do
    let first ← render scope left
    let second ← render scope right
    return ⟨first.at .and ++ " and " ++ second.at .not, .and⟩
  | .logical .or left right => do
    let first ← render scope left
    let second ← render scope right
    return ⟨first.at .or ++ " or " ++ second.at .and, .or⟩
  | .list items => do
    let codes ← renderItems scope items
    return ⟨"[" ++ Text.join ", " codes ++ "]", .atom⟩
  | .object entries => do
    let codes ← renderEntries scope entries
    return ⟨"\x7b" ++ Text.join ", " codes ++ "\x7d", .atom⟩

def renderItems (scope : Scope) : List Expr → Except Fault (List Text)
  | [] => .ok []
  | item :: rest => do
    let code ← render scope item
    let codes ← renderItems scope rest
    return code.text :: codes

def renderEntries (scope : Scope) : List (Text × Expr) → Except Fault (List Text)
  | [] => .ok []
  | (key, value) :: rest => do
    let code ← render scope value
    let codes ← renderEntries scope rest
    return (key.doubleQuoted ++ ": " ++ code.text) :: codes

end

end AgentFlow.Expr
