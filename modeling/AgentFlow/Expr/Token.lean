import AgentFlow.Expr.Literal

/-!
# Tokens of the expression language

Numbers, quoted strings, words and symbols.  The words `and`, `or` and `not` are other spellings of
three symbols.  A token keeps its text and its position, counted in code points; a last token marks
the end of the expression.
-/

namespace AgentFlow.Expr

inductive Symbol where
  | and
  | or
  | eq
  | ne
  | le
  | ge
  | lt
  | gt
  | not
  | plus
  | minus
  | times
  | divide
  | modulo
  | openParen
  | closeParen
  | openBracket
  | closeBracket
  | openBrace
  | closeBrace
  | comma
  | colon
  | dot
deriving DecidableEq, Repr

namespace Symbol

def text : Symbol → Text
  | and => "&&"
  | or => "||"
  | eq => "=="
  | ne => "!="
  | le => "<="
  | ge => ">="
  | lt => "<"
  | gt => ">"
  | not => "!"
  | plus => "+"
  | minus => "-"
  | times => "*"
  | divide => "/"
  | modulo => "%"
  | openParen => "("
  | closeParen => ")"
  | openBracket => "["
  | closeBracket => "]"
  | openBrace => "\x7b"
  | closeBrace => "\x7d"
  | comma => ","
  | colon => ":"
  | dot => "."

/-- All symbols, those of two characters first, so that the first match is the longest. -/
def all : List Symbol :=
  [and, or, eq, ne, le, ge, lt, gt, not, plus, minus, times, divide, modulo, openParen, closeParen,
    openBracket, closeBracket, openBrace, closeBrace, comma, colon, dot]

def leading? (s : Text) : Option Symbol := all.find? fun symbol => s.startsWith symbol.text

def ofWord? (word : Text) : Option Symbol :=
  if word = "and" then some and
  else if word = "or" then some or
  else if word = "not" then some not
  else none

end Symbol

inductive Token.Kind where
  | integer (value : Integer)
  | decimal (value : Decimal)
  | string (value : Text)
  | word
  | symbol (symbol : Symbol)
  | finish
deriving DecidableEq, Repr

structure Token where
  kind : Token.Kind
  text : Text
  position : Nat
  plain : kind = .word → ∀ point ∈ text, point.isSurrogate = false
deriving DecidableEq, Repr

namespace Token

def finish (position : Nat) : Token := ⟨.finish, [], position, nofun⟩

def isSymbol (token : Token) (symbol : Symbol) : Bool := token.kind = .symbol symbol

end Token

end AgentFlow.Expr
