import AgentFlow.Number.Binary64

/-!
# Expressions of the generated language

The abstract syntax of Python expressions, as far as code generation and the check of generated
expressions need it.  The parts appear in the order in which the check visits them.
-/

namespace AgentFlow.Target

inductive Constant where
  | none
  | bool (value : Bool)
  | ellipsis
  | int (value : Nat)
  | float (value : Binary64)
  | imaginary (value : Binary64)
  | str (value : Text)
  | bytes (value : List Nat)
deriving DecidableEq, Repr, Inhabited

inductive BoolOp where
  | and
  | or
deriving DecidableEq, Repr

inductive UnaryOp where
  | not
  | minus
  | plus
  | invert
deriving DecidableEq, Repr

inductive BinaryOp where
  | add
  | sub
  | mul
  | div
  | mod
  | pow
  | floorDiv
  | matMul
  | shiftLeft
  | shiftRight
  | bitOr
  | bitXor
  | bitAnd
deriving DecidableEq, Repr

inductive CompareOp where
  | eq
  | notEq
  | lt
  | ltE
  | gt
  | gtE
  | is
  | isNot
  | member
  | notMember
deriving DecidableEq, Repr

inductive ParameterKind where
  | positionalOnly
  | ordinary
  | rest
  | keywordOnly
  | keywordRest
deriving DecidableEq, Repr

structure Parameter (α : Type) where
  kind : ParameterKind
  name : Text
  default? : Option α
deriving Repr

/-- A keyword argument; without a name it unpacks a mapping. -/
structure Keyword (α : Type) where
  name : Option Text
  value : α
deriving Repr

structure Clause (α : Type) where
  isAsync : Bool
  target : α
  source : α
  conditions : List α
deriving Repr

inductive Code where
  | constant (value : Constant)
  | name (id : Text)
  | boolOp (op : BoolOp) (values : List Code)
  | named (target value : Code)
  | binOp (op : BinaryOp) (left right : Code)
  | unaryOp (op : UnaryOp) (operand : Code)
  | lambda (parameters : List (Parameter Code)) (body : Code)
  | ifExp (test body orelse : Code)
  | dict (entries : List (Option Code × Code))
  | set (items : List Code)
  | listComp (item : Code) (clauses : List (Clause Code))
  | setComp (item : Code) (clauses : List (Clause Code))
  | dictComp (key value : Code) (clauses : List (Clause Code))
  | generator (item : Code) (clauses : List (Clause Code))
  | await (value : Code)
  | yield (value : Option Code)
  | yieldFrom (value : Code)
  | compare (left : Code) (rest : List (CompareOp × Code))
  | call (function : Code) (arguments : List Code) (keywords : List (Keyword Code))
  | formatted (value : Code) (conversion : Option Char) (spec : Option Code)
  | joined (parts : List Code)
  | attr (value : Code) (field : Text)
  | subscript (value index : Code)
  | starred (value : Code)
  | list (items : List Code)
  | tuple (items : List Code)
  | slice (lower upper step : Option Code)
deriving Inhabited, Repr

end AgentFlow.Target
