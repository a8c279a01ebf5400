import AgentFlow.Expr.Parser

/-!
# The grammar of expressions

The grammar told by itself, with no parser in sight: five levels of binary operators, then operators
before an operand, then field and index access, then primary expressions.

    or       = and ('||' and)*
    and      = compare ('&&' compare)*
    compare  = add (('==' | '!=' | '<' | '<=' | '>' | '>=' | 'in') add)*
    add      = mul (('+' | '-') mul)*
    mul      = unary (('*' | '/' | '%') unary)*
    unary    = ('!' | '-' | '+') unary | accessed
    accessed = primary ('.' word | '[' or ']')*
    primary  = number | string | keyword | word '(' [or (',' or)*] ')' | word | '(' or ')'
             | '[' [or (',' or)* [',']] ']' | '{' [entry (',' entry)* [',']] '}'
    entry    = (word | string) ':' or

A repetition associates to the left, so a rule for it takes what comes before the last operator as
an expression of the same level.  A word that spells a literal is neither a name nor a function.
-/

namespace AgentFlow.Expr.Grammar

/-! ## Operators and words -/

/-- A binary operator. -/
inductive Operator where
  | arith (operator : Arith)
  | compare (comparison : Comparison)
  | logical (connective : Connective)
deriving DecidableEq, Repr

namespace Operator

def level : Operator → Level
  | logical .or => .or
  | logical .and => .and
  | compare _ => .compare
  | arith .add => .add
  | arith .sub => .add
  | arith .mul => .mul
  | arith .div => .mul
  | arith .mod => .mul

def text : Operator → Text
  | arith operator => operator.text
  | compare comparison => comparison.text
  | logical connective => connective.text

def apply : Operator → Expr → Expr → Expr
  | arith operator => .binary operator
  | compare comparison => .compare comparison
  | logical connective => .logical connective

end Operator

/-- A token spells an operator: it is a symbol, or the one word that is an operator. -/
inductive Spells (token : Token) : Text → Prop where
  | symbol {symbol : Symbol} (isSymbol : token.kind = .symbol symbol) : Spells token symbol.text
  | member (isWord : token.kind = .word) (isIn : token.text = "in") : Spells token "in"

/-- The words that spell literals. -/
def keywords : List (Text × Literal) :=
  [("true", .bool true), ("false", .bool false), ("null", .null), ("True", .bool true),
    ("False", .bool false), ("None", .null)]

/-- A token names an entry of an object: it is a word or a string, and not empty. -/
structure Names (token : Token) (name : Text) : Prop where
  spelled : token.kind = .word ∧ token.text = name ∨ token.kind = .string name
  notEmpty : name ≠ []

/-! ## Sequences -/

/-- Tokens are given stretches with a comma between each two of them. -/
inductive Separated : List (List Token) → List Token → Prop where
  | none : Separated [] []
  | one {span} : Separated [span] span
  | more {span next tokens spans} {comma : Token}
      (isComma : comma.kind = .symbol .comma) (later : Separated (next :: spans) tokens) :
      Separated (span :: next :: spans) (span ++ comma :: tokens)

/-- Tokens are given stretches, each with a comma after it; the last may do without. -/
inductive Trailed : List (List Token) → List Token → Prop where
  | none : Trailed [] []
  | last {span} : Trailed [span] span
  | more {span tokens spans} {comma : Token}
      (isComma : comma.kind = .symbol .comma) (later : Trailed spans tokens) :
      Trailed (span :: spans) (span ++ comma :: tokens)

/-- An entry of an object, with the tokens that it is read from. -/
structure Entry where
  key : Token
  name : Text
  colon : Token
  span : List Token
  value : Expr

namespace Entry

def tokens (entry : Entry) : List Token := entry.key :: entry.colon :: entry.span

def pair (entry : Entry) : Text × Expr := (entry.name, entry.value)

/-- The key names the entry, and a colon follows it. -/
structure Marked (entry : Entry) : Prop where
  names : Names entry.key entry.name
  isColon : entry.colon.kind = .symbol .colon

end Entry

/-! ## Derivations -/

/-- The strata of the grammar. -/
inductive Stratum where
  | level (level : Level)
  | unary
  | accessed
  | primary
deriving DecidableEq, Repr

/-- What the operators of a level join. -/
def operand : Level → Stratum
  | .or => .level .and
  | .and => .level .compare
  | .compare => .level .add
  | .add => .level .mul
  | .mul => .unary

/-- Tokens derive a tree from a stratum of the grammar. -/
inductive Derives : Stratum → List Token → Expr → Prop where
  | operand {level span tree}
      (only : Derives (operand level) span tree) : Derives (.level level) span tree
  | join {operator : Operator} {before after token left right}
      (first : Derives (.level operator.level) before left) (spells : Spells token operator.text)
      (last : Derives (Grammar.operand operator.level) after right) :
      Derives (.level operator.level) (before ++ token :: after) (operator.apply left right)
  | signed {sign : Sign} {token span tree}
      (spells : Spells token sign.text) (inner : Derives .unary span tree) :
      Derives .unary (token :: span) (.unary sign tree)
  | unsigned {span tree} (inner : Derives .accessed span tree) : Derives .unary span tree
  | base {span tree} (inner : Derives .primary span tree) : Derives .accessed span tree
  | member {span target} {dot field : Token}
      (inner : Derives .accessed span target) (isDot : dot.kind = .symbol .dot)
      (isWord : field.kind = .word) :
      Derives .accessed (span ++ [dot, field]) (.member target ⟨field.text, field.plain isWord⟩)
  | index {span inner target position} {opening closing : Token}
      (before : Derives .accessed span target) (opens : opening.kind = .symbol .openBracket)
      (inside : Derives (.level .or) inner position)
      (closes : closing.kind = .symbol .closeBracket) :
      Derives .accessed (span ++ opening :: inner ++ [closing]) (.index target position)
  | integer {token : Token} {value} (isInteger : token.kind = .integer value) :
      Derives .primary [token] (.literal (.integer value))
  | decimal {token : Token} {value} (isDecimal : token.kind = .decimal value) :
      Derives .primary [token] (.literal (.decimal value))
  | string {token : Token} {value} (isString : token.kind = .string value) :
      Derives .primary [token] (.literal (.string value))
  | keyword {token : Token} {value} (isWord : token.kind = .word)
      (listed : (token.text, value) ∈ keywords) : Derives .primary [token] (.literal value)
  | name {token : Token} (isWord : token.kind = .word)
      (free : ∀ value, (token.text, value) ∉ keywords) : Derives .primary [token] (.name token.text)
  | call {function opening closing : Token} {inner} {parts : List (List Token × Expr)}
      (isWord : function.kind = .word) (free : ∀ value, (function.text, value) ∉ keywords)
      (opens : opening.kind = .symbol .openParen) (separated : Separated (parts.map Prod.fst) inner)
      (each : ∀ part ∈ parts, Derives (.level .or) part.1 part.2)
      (closes : closing.kind = .symbol .closeParen) :
      Derives .primary (function :: opening :: inner ++ [closing])
        (.call function.text (parts.map Prod.snd))
  | group {opening closing : Token} {inner tree}
      (opens : opening.kind = .symbol .openParen) (inside : Derives (.level .or) inner tree)
      (closes : closing.kind = .symbol .closeParen) :
      Derives .primary (opening :: inner ++ [closing]) tree
  | list {opening closing : Token} {inner} {parts : List (List Token × Expr)}
      (opens : opening.kind = .symbol .openBracket) (trailed : Trailed (parts.map Prod.fst) inner)
      (each : ∀ part ∈ parts, Derives (.level .or) part.1 part.2)
      (closes : closing.kind = .symbol .closeBracket) :
      Derives .primary (opening :: inner ++ [closing]) (.list (parts.map Prod.snd))
  | object {opening closing : Token} {inner} {entries : List Entry}
      (opens : opening.kind = .symbol .openBrace)
      (trailed : Trailed (entries.map Entry.tokens) inner)
      (marked : ∀ entry ∈ entries, entry.Marked)
      (each : ∀ entry ∈ entries, Derives (.level .or) entry.span entry.value)
      (closes : closing.kind = .symbol .closeBrace) :
      Derives .primary (opening :: inner ++ [closing]) (.object (entries.map Entry.pair))

/-- Tokens up to and including the one that ends them are a whole expression. -/
def Sentence (tokens : List Token) (tree : Expr) : Prop :=
  ∃ span finish, tokens = span ++ [finish] ∧ finish.kind = .finish ∧ Derives (.level .or) span tree

/-! ## The tables of the grammar -/

theorem symbol_text_injective : Function.Injective Symbol.text := by
  intro symbol other same
  cases symbol <;> cases other <;> first | rfl | exact absurd same (by decide)

end AgentFlow.Expr.Grammar
