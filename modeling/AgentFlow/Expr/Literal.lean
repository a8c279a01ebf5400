import AgentFlow.Number.Numeral
import AgentFlow.Scalar

/-!
# Literals and fields of the expression language

A literal is what an expression can write as one token, or as one of six words.  Numbers have no
sign, since signs are operators, and an integer has no more digits than one is read from.  A field
is named by a word, which holds no surrogate.
-/

namespace AgentFlow.Expr

structure Integer where
  value : Nat
  short : (Nat.toDigits 10 value).length ≤ Numeral.digitLimit
deriving DecidableEq, Repr

structure Decimal where
  value : Binary64
  unsigned : value.negative = false
deriving DecidableEq, Repr

instance : Coe Integer Int := ⟨fun integer => integer.value⟩

instance : Coe Decimal Binary64 := ⟨Decimal.value⟩

structure Field where
  text : Text
  plain : ∀ point ∈ text, point.isSurrogate = false
deriving DecidableEq, Repr

instance : Coe Field Text := ⟨Field.text⟩

inductive Literal where
  | null
  | bool (value : Bool)
  | integer (value : Integer)
  | decimal (value : Decimal)
  | string (value : Text)
deriving DecidableEq, Repr, Inhabited

def Literal.scalar : Literal → Scalar
  | null => .null
  | bool value => .bool value
  | integer value => .int value
  | decimal value => .float value
  | string value => .str value

instance : Coe Literal Scalar := ⟨Literal.scalar⟩

end AgentFlow.Expr
