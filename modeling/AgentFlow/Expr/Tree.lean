import AgentFlow.Expr.Literal

/-!
# Expression trees

The abstract syntax of conditions and values: literals, names, field and index access, calls,
operators, lists and objects.
-/

namespace AgentFlow

namespace Expr

inductive Sign where
  | not
  | minus
  | plus
deriving DecidableEq, Repr

inductive Arith where
  | add
  | sub
  | mul
  | div
  | mod
deriving DecidableEq, Repr

inductive Comparison where
  | eq
  | ne
  | lt
  | le
  | gt
  | ge
  | member
deriving DecidableEq, Repr

inductive Connective where
  | and
  | or
deriving DecidableEq, Repr

def Sign.text : Sign → Text
  | not => "!"
  | minus => "-"
  | plus => "+"

def Arith.text : Arith → Text
  | add => "+"
  | sub => "-"
  | mul => "*"
  | div => "/"
  | mod => "%"

def Comparison.text : Comparison → Text
  | eq => "=="
  | ne => "!="
  | lt => "<"
  | le => "<="
  | gt => ">"
  | ge => ">="
  | member => "in"

def Connective.text : Connective → Text
  | and => "&&"
  | or => "||"

end Expr

inductive Expr where
  | literal (value : Expr.Literal)
  | name (id : Text)
  | member (target : Expr) (key : Expr.Field)
  | index (target position : Expr)
  | call (function : Text) (arguments : List Expr)
  | unary (sign : Expr.Sign) (operand : Expr)
  | binary (operator : Expr.Arith) (left right : Expr)
  | compare (comparison : Expr.Comparison) (left right : Expr)
  | logical (connective : Expr.Connective) (left right : Expr)
  | list (items : List Expr)
  | object (entries : List (Text × Expr))
deriving Inhabited, Repr

namespace Expr

/-- The name at the base of a chain of field and index accesses. -/
def rootName? : Expr → Option Text
  | .member target _ => rootName? target
  | .index target _ => rootName? target
  | .name id => some id
  | _ => none

end Expr

end AgentFlow
