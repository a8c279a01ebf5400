import AgentFlow.Proofs.Expr.Image
import AgentFlow.Proofs.Target.Lines

/-!
# Texts that are read as code

A text is written for a piece of code at a binding when it spells tokens that hold together there
and are read as that code.  What spelling says about characters and what phrases say about tokens
are brought together here, one construct at a time.
-/

namespace AgentFlow.Target

open List
open AgentFlow.Expr (Binding)
open Text (ofChars ofString join)

/-- A text that spells tokens which hold together at a binding and are read as a piece of code. -/
def Writes (binding : Binding) (text : Text) (code : Code) : Prop :=
  ∃ chars tokens, text = ofChars chars ∧ Spells chars tokens ∧ Reads binding tokens code

/-- A text that spells operands with a connective between them: the first one and more. -/
def WritesChain (op : BoolOp) (text : Text) (first : Code) (more : List Code) : Prop :=
  ∃ chars tokens, text = ofChars chars ∧ Spells chars tokens ∧ Gathers op tokens first more

variable {binding : Binding} {text other : Text} {code second : Code}

theorem ofChars_append (chars more : List Char) :
    ofChars (chars ++ more) = ofChars chars ++ ofChars more :=
  map_append

theorem toChars?_ofChars (chars : List Char) : (ofChars chars).toChars? = some chars := by
  induction chars with
  | nil => rfl
  | cons c rest ih =>
    rw [Text.toChars?, ofChars] at ih ⊢
    simp [ih]

/-- **A written text is parsed as its code,** and it fits on a line. -/
theorem Writes.parse (written : Writes .or text code) :
    ∃ chars, text = ofChars chars ∧ (∀ c ∈ chars, fitsLine c = true) ∧
      parse chars = some code := by
  obtain ⟨chars, tokens, rfl, spelled, read⟩ := written
  refine ⟨chars, rfl, spelled.unbroken, ?_⟩
  have fits := spelled.lexes.length_le
  have expression : readExpression (40 * (chars.length + 1)) (tokens ++ []) = some (code, []) :=
    read.expression (by omega) Nat.zero_lt_one
  rw [append_nil] at expression
  simp [Target.parse, spelled.lexes.tokenize spelled.opens, readTop, expression, atOp]

namespace Writes

theorem loosen {loose : Binding} (written : Writes binding text code)
    (order : loose.rank ≤ binding.rank) : Writes loose text code := by
  obtain ⟨chars, tokens, same, spelled, read⟩ := written
  exact ⟨chars, tokens, same, spelled, read.loosen order⟩

/-- Any text can stand where an expression can. -/
theorem whole (written : Writes binding text code) : Writes .or text code :=
  written.loosen (by cases binding <;> decide)

theorem enclosed (written : Writes .or text code) : Writes .atom ("(" ++ text ++ ")") code := by
  obtain ⟨chars, tokens, rfl, spelled, read⟩ := written
  refine ⟨_, _, ?_, spelled.enclosed .round, reads_enclosed read⟩
  rw [← singleton_append, ofChars_append, ofChars_append, ← append_assoc]
  rfl

theorem place {rendered : Expr.Rendered} (written : Writes rendered.binding rendered.text code)
    (required : Binding) : Writes required (rendered.at required) code := by
  rw [Expr.Rendered.at]
  split
  · exact written.whole.enclosed.loosen (by cases required <;> decide)
  · next tight => exact written.loosen (Nat.le_of_not_lt tight)

end Writes

/-! ## Atoms -/

theorem writes_keyword {c : Char} {rest : List Char} (starts : startsName c = true)
    (continues : ∀ d ∈ c :: rest, continuesName d = true)
    (reserved : String.ofList (c :: rest) ∈ keywords)
    (read : Reads .atom [.keyword (String.ofList (c :: rest))] code) :
    Writes .atom (ofChars (c :: rest)) code :=
  ⟨_, _, rfl, spells_keyword starts continues reserved, read⟩

theorem writes_none : Writes .atom "None" (.constant .none) :=
  writes_keyword (c := 'N') (by decide) (by decide) (by decide) reads_none

theorem writes_bool (value : Bool) :
    Writes .atom (if value then "True" else "False") (.constant (.bool value)) := by
  cases value with
  | true => exact writes_keyword (c := 'T') (by decide) (by decide) (by decide) (reads_bool true)
  | false => exact writes_keyword (c := 'F') (by decide) (by decide) (by decide) (reads_bool false)

theorem writes_nat (n : Nat) (short : (Nat.toDigits 10 n).length ≤ Numeral.digitLimit) :
    Writes .atom (Text.ofNat n) (.constant (.int n)) :=
  ⟨_, _, rfl, spells_nat n short, reads_number _⟩

theorem writes_double {x : Binary64} (finite : x.isFinite = true) (unsigned : x.negative = false) :
    Writes .atom x.toText (.constant (.float x)) := by
  have same : x.unsigned = x := Binary64.eq_of_fields unsigned.symm rfl rfl
  refine ⟨doubleChars x, _, ?_, spells_double finite, same.symm ▸ reads_number _⟩
  rw [toText_eq finite, unsigned, if_neg Bool.false_ne_true]

theorem exists_chars (plain : ∀ point ∈ text, point.isSurrogate = false) :
    ∃ chars, text = ofChars chars := by
  induction text with
  | nil => exact ⟨[], rfl⟩
  | cons point rest ih =>
    obtain ⟨first, others⟩ := forall_mem_cons.1 plain
    obtain ⟨chars, rfl⟩ := ih others
    cases point with
    | scalar c => exact ⟨c :: chars, rfl⟩
    | surrogate offset => cases first

theorem writes_quoted (plain : ∀ point ∈ text, point.isSurrogate = false) :
    Writes .atom text.doubleQuoted (.constant (.str text)) := by
  obtain ⟨chars, rfl⟩ := exists_chars plain
  exact ⟨_, _, doubleQuoted_ofChars chars, spells_quoted chars,
    reads_string rfl (constant?_quotedToken chars)⟩

/-- A name that can be written as it is: an identifier of ASCII characters that is not reserved. -/
structure PlainName (name : Text) : Prop where
  identifier : name.isIdentifier = true
  ascii : name.all (·.toNat < 0x80) = true
  free : isKeyword name = false

instance (name : Text) : Decidable (PlainName name) :=
  decidable_of_iff (name.isIdentifier = true ∧ name.all (·.toNat < 0x80) = true ∧
    isKeyword name = false)
    ⟨fun ⟨identifier, ascii, free⟩ => ⟨identifier, ascii, free⟩,
      fun plain => ⟨plain.identifier, plain.ascii, plain.free⟩⟩

theorem writes_name {name : Text} (plain : PlainName name) : Writes .atom name (.name name) := by
  obtain ⟨chars, same, spelled⟩ := spells_identifier plain.identifier plain.ascii plain.free
  exact ⟨chars, _, same, spelled, reads_name name⟩

/-! ## Accesses and calls -/

namespace Writes

theorem subscript (target : Writes .access text code) (index : Writes .or other second) :
    Writes .access (text ++ "[" ++ other ++ "]") (.subscript code second) := by
  obtain ⟨chars, tokens, rfl, spelled, read⟩ := target
  obtain ⟨inner, others, rfl, spelled', read'⟩ := index
  refine ⟨_, _, ?_, spelled.append (spelled'.enclosed .square) rfl, reads_subscript read read'⟩
  rw [ofChars_append, ← singleton_append, ofChars_append, ofChars_append,
    append_assoc, append_assoc]
  rfl

theorem call (function : Writes .access text code) (argument : Writes .or other second) :
    Writes .access (text ++ "(" ++ other ++ ")") (.call code [second] []) := by
  obtain ⟨chars, tokens, rfl, spelled, read⟩ := function
  obtain ⟨inner, others, rfl, spelled', read'⟩ := argument
  refine ⟨_, _, ?_, spelled.append (spelled'.enclosed .round) rfl,
    reads_call read (.cons read' .nil) .nil⟩
  rw [ofChars_append, ← singleton_append, ofChars_append, ofChars_append,
    append_assoc, append_assoc]
  rfl

/-! ## Operators -/

theorem negation (operand : Writes .not text code) :
    Writes .not ("not " ++ text) (.unaryOp .not code) := by
  obtain ⟨chars, tokens, rfl, spelled, read⟩ := operand
  have mark :
      Marks ([] ++ ('n' :: ['o', 't'] ++ [' '])) (.keyword (String.ofList ['n', 'o', 't'])) :=
    marks_keyword (by decide) (by decide) (by decide) (by decide) (by decide)
  exact ⟨_, _, rfl, spelled.prefixed mark rfl, reads_not read⟩

theorem minus (operand : Writes .unary text code) :
    Writes .unary ("-" ++ text) (.unaryOp .minus code) := by
  obtain ⟨chars, tokens, rfl, spelled, read⟩ := operand
  exact ⟨_, _, rfl, spelled.signed (.inr rfl), reads_sign rfl rfl read⟩

theorem plus (operand : Writes .unary text code) :
    Writes .unary ("+" ++ text) (.unaryOp .plus code) := by
  obtain ⟨chars, tokens, rfl, spelled, read⟩ := operand
  exact ⟨_, _, rfl, spelled.signed (.inl rfl), reads_sign rfl rfl read⟩

end Writes

/-- A text that can stand between two operands and spells one token there. -/
def Between (text : Text) (token : Token) : Prop :=
  ∃ chars, text = ofChars chars ∧ closes chars = true ∧ Marks chars token

def arithToken : Expr.Arith → Token
  | .add => .op "+"
  | .sub => .op "-"
  | .mul => .op "*"
  | .div => .op "/"
  | .mod => .op "%"

def comparisonToken : Expr.Comparison → Token
  | .eq => .op "=="
  | .ne => .op "!="
  | .lt => .op "<"
  | .le => .op "<="
  | .gt => .op ">"
  | .ge => .op ">="
  | .member => .keyword "in"

theorem ofString_spaced (s : String) :
    " " ++ ofString s ++ " " = ofChars ([' '] ++ (s.toList ++ [' '])) := by
  rw [ofChars_append, ofChars_append, ← append_assoc]
  rfl

theorem between_operator (op : String)
    (starts : op.toList.head?.any (fun c => startsOperator c && beginsToken c) = true)
    (unbroken : ∀ d ∈ op.toList, fitsLine d = true)
    (flat : ∀ depth, nextDepth depth (.op op) = depth)
    (found : ∀ left, ((operators.find? fun other =>
      other.toList.isPrefixOf (op.toList ++ ' ' :: left)).map fun other =>
        (Token.op other, (op.toList ++ ' ' :: left).drop other.length)) =
          some (.op op, ' ' :: left)) :
    Between (" " ++ ofString op ++ " ") (.op op) := by
  obtain ⟨c, head, plain⟩ := (Option.any_eq_true _ _).1 starts
  obtain ⟨rest, shape⟩ := head?_eq_some_iff.1 head
  rw [Bool.and_eq_true] at plain
  rw [shape] at unbroken found
  rw [ofString_spaced, shape]
  refine ⟨_, rfl, rfl, marks_operator op ?_ plain.2 flat fun left => ?_⟩
  · exact forall_mem_append.2 ⟨by decide, unbroken⟩
  · exact (readToken_operator plain.1 _).trans (found left)

theorem between_keyword (word : String) (starts : word.toList.head?.any startsName = true)
    (continues : ∀ d ∈ word.toList, continuesName d = true) (reserved : word ∈ keywords) :
    Between (" " ++ ofString word ++ " ") (.keyword word) := by
  obtain ⟨c, head, first⟩ := (Option.any_eq_true _ _).1 starts
  obtain ⟨rest, shape⟩ := head?_eq_some_iff.1 head
  have same : String.ofList (c :: rest) = word := by rw [← shape, String.ofList_toList]
  rw [shape] at continues
  rw [← same] at reserved
  have mark := marks_keyword (show ∀ d ∈ [' '], isGap d = true by decide) first continues
    (by decide) reserved
  rw [same] at mark
  rw [ofString_spaced, shape]
  exact ⟨_, rfl, rfl, mark⟩

theorem between_arith (operator : Expr.Arith) :
    Between (" " ++ operator.text ++ " ") (arithToken operator) := by
  cases operator <;> exact between_operator _ (by decide) (by decide) (fun _ => rfl) fun _ => rfl

theorem between_comparison (comparison : Expr.Comparison) :
    Between (" " ++ comparison.text ++ " ") (comparisonToken comparison) := by
  cases comparison with
  | member => exact between_keyword _ (by decide) (by decide) (by decide)
  | _ => exact between_operator _ (by decide) (by decide) (fun _ => rfl) fun _ => rfl

theorem spells_between {between : Text} {chars more : List Char} {tokens others : List Token}
    {token : Token} (first : Spells chars tokens) (mark : Between between token)
    (second : Spells more others) :
    ∃ all, ofChars chars ++ between ++ ofChars more = ofChars all ∧
      Spells all (tokens ++ token :: others) := by
  obtain ⟨inner, rfl, closed, mark⟩ := mark
  refine ⟨_, ?_, first.joined mark closed second⟩
  rw [ofChars_append, ofChars_append, append_assoc]

theorem Writes.arith {operator : Expr.Arith} (left : Writes operator.binding text code)
    (right : Writes operator.rightBinding other second) :
    Writes operator.binding (text ++ (" " ++ operator.text ++ " ") ++ other)
      (.binOp operator.op code second) := by
  obtain ⟨chars, tokens, rfl, spelled, read⟩ := left
  obtain ⟨more, others, rfl, spelled', read'⟩ := right
  obtain ⟨all, same, whole⟩ := spells_between spelled (between_arith operator) spelled'
  refine ⟨all, _, same, whole, ?_⟩
  cases operator with
  | add | sub => exact reads_sum rfl rfl rfl read read'
  | mul | div | mod => exact reads_term rfl rfl rfl read read'

theorem Writes.comparison (comparison : Expr.Comparison) (left : Writes .add text code)
    (right : Writes .add other second) :
    Writes .compare (text ++ (" " ++ comparison.text ++ " ") ++ other)
      (.compare code [(comparison.op, second)]) := by
  obtain ⟨chars, tokens, rfl, spelled, read⟩ := left
  obtain ⟨more, others, rfl, spelled', read'⟩ := right
  obtain ⟨all, same, whole⟩ := spells_between spelled (between_comparison comparison) spelled'
  refine ⟨all, _, same, whole, ?_⟩
  cases comparison <;> exact reads_compare (fun _ => rfl) rfl rfl read read'

/-! ## Chains of connectives -/

def connectiveWord : BoolOp → String
  | .and => "and"
  | .or => "or"

def chainBinding : BoolOp → Binding
  | .and => .and
  | .or => .or

def operandBinding : BoolOp → Binding
  | .and => .not
  | .or => .and

theorem between_connective (op : BoolOp) :
    Between (" " ++ ofString (connectiveWord op) ++ " ") (.keyword (connectiveWord op)) := by
  cases op <;> exact between_keyword _ (by decide) (by decide) (by decide)

namespace WritesChain

variable {op : BoolOp} {first : Code} {more : List Code}

theorem single (written : Writes (operandBinding op) text code) : WritesChain op text code [] := by
  obtain ⟨chars, tokens, same, spelled, read⟩ := written
  refine ⟨chars, tokens, same, spelled, ?_⟩
  cases op with
  | and => exact .of_not read
  | or => exact .of_and read

theorem operand (chain : WritesChain op text first more)
    (right : Writes (operandBinding op) other second) :
    WritesChain op (text ++ (" " ++ ofString (connectiveWord op) ++ " ") ++ other) first
      (more ++ [second]) := by
  obtain ⟨chars, tokens, rfl, spelled, gathered⟩ := chain
  obtain ⟨further, others, rfl, spelled', read⟩ := right
  obtain ⟨all, same, whole⟩ := spells_between spelled (between_connective op) spelled'
  refine ⟨all, _, same, whole, ?_⟩
  cases op with
  | and => exact gathered.and_operand read
  | or => exact gathered.or_operand read

theorem writes (chain : WritesChain op text first more) (several : more ≠ []) :
    Writes (chainBinding op) text (.boolOp op (first :: more)) := by
  obtain ⟨chars, tokens, same, spelled, gathered⟩ := chain
  have joins : joined op first more = .boolOp op (first :: more) := by simp [joined, several]
  rw [← joins]
  cases op with
  | and => exact ⟨chars, tokens, same, spelled, gathered.and⟩
  | or => exact ⟨chars, tokens, same, spelled, gathered.or⟩

end WritesChain

/-! ## Lists and dictionaries -/

theorem between_punctuation {c : Char} (mark : c = ',' ∨ c = ':') :
    Between (ofChars [c, ' ']) (.op (String.singleton c)) := by
  refine ⟨[] ++ (c :: [] ++ [' ']), rfl, ?_, marks_of_read nofun ?_ ?_ (fun _ => ?_) fun left => ?_⟩
  all_goals rcases mark with rfl | rfl
  all_goals first | rfl | decide | exact readToken_operator (by decide) _

variable {pieces : List (List Token)} {texts : List Text}

theorem spells_separated (some : texts ≠ [])
    (spelled : List.Forall₂ (fun text tokens => ∃ chars, text = ofChars chars ∧
      Spells chars tokens) texts pieces) :
    ∃ all, join ", " texts = ofChars all ∧ Spells all (separated pieces) := by
  induction spelled with
  | nil => exact absurd rfl some
  | cons head tail ih =>
    obtain ⟨chars, rfl, first⟩ := head
    cases tail with
    | nil => exact ⟨chars, rfl, first⟩
    | cons next others =>
      obtain ⟨more, same, rest⟩ := ih (cons_ne_nil _ _)
      obtain ⟨all, whole, spells⟩ := spells_between first (between_punctuation (.inl rfl)) rest
      refine ⟨all, ?_, spells⟩
      rw [← whole, ← same]
      rfl

theorem spells_bracketed (bracket : Bracket)
    (spelled : List.Forall₂ (fun text tokens => ∃ chars, text = ofChars chars ∧
      Spells chars tokens) texts pieces) :
    ∃ all, ofChars [bracket.first] ++ join ", " texts ++ ofChars [bracket.last] =
        ofChars all ∧
      Spells all (bracket.opening :: (separated pieces ++ [bracket.closing])) := by
  by_cases none : texts = []
  · subst none
    cases spelled
    exact ⟨_, rfl, .empty bracket⟩
  · obtain ⟨all, same, whole⟩ := spells_separated none spelled
    refine ⟨_, ?_, whole.enclosed bracket⟩
    rw [same, ← ofChars_append, ← ofChars_append, append_assoc]
    rfl

theorem exists_middle {α β γ : Type} {first : α → β → Prop} {second : β → γ → Prop}
    {starts : List α} {ends : List γ}
    (related : List.Forall₂ (fun a c => ∃ b, first a b ∧ second b c) starts ends) :
    ∃ middle, List.Forall₂ first starts middle ∧ List.Forall₂ second middle ends := by
  induction related with
  | nil => exact ⟨[], .nil, .nil⟩
  | cons head _ ih =>
    obtain ⟨b, left, right⟩ := head
    obtain ⟨middle, lefts, rights⟩ := ih
    exact ⟨b :: middle, .cons left lefts, .cons right rights⟩

/-- What texts spell, apart from what their tokens are read as. -/
theorem exists_pieces {α : Type} {reads : List Token → α → Prop} {values : List α}
    (written : List.Forall₂ (fun text value => ∃ chars tokens, text = ofChars chars ∧
      Spells chars tokens ∧ reads tokens value) texts values) :
    ∃ pieces, List.Forall₂ (fun text tokens => ∃ chars, text = ofChars chars ∧
      Spells chars tokens) texts pieces ∧ List.Forall₂ reads pieces values :=
  exists_middle (written.imp fun _ _ ⟨chars, tokens, same, spelled, read⟩ =>
    ⟨tokens, ⟨chars, same, spelled⟩, read⟩)

theorem writes_list {values : List Code} (written : List.Forall₂ (Writes .or) texts values) :
    Writes .atom ("[" ++ join ", " texts ++ "]") (.list values) := by
  obtain ⟨pieces, spelled, read⟩ := exists_pieces written
  obtain ⟨all, same, whole⟩ := spells_bracketed .square spelled
  exact ⟨all, _, same, whole, reads_list read⟩

/-- A text that spells a key and a value with a colon between them. -/
def WritesEntry (text : Text) (entry : Option Code × Code) : Prop :=
  ∃ chars tokens, text = ofChars chars ∧ Spells chars tokens ∧ ReadsEntry tokens entry

theorem writes_entry {key : Text} (plain : ∀ point ∈ key, point.isSurrogate = false)
    (value : Writes .or text code) :
    WritesEntry (key.doubleQuoted ++ ": " ++ text) (some (.constant (.str key)), code) := by
  obtain ⟨chars, tokens, same, spelled, read⟩ := writes_quoted plain
  obtain ⟨more, others, rfl, spelled', read'⟩ := value
  obtain ⟨all, whole, spells⟩ := spells_between spelled (between_punctuation (.inr rfl)) spelled'
  refine ⟨all, _, ?_, spells, .intro (read.loosen (by decide)) nofun read'⟩
  rw [same]
  exact whole

theorem writes_dict {entries : List (Option Code × Code)}
    (written : List.Forall₂ WritesEntry texts entries) :
    Writes .atom ("\x7b" ++ join ", " texts ++ "\x7d") (.dict entries) := by
  obtain ⟨pieces, spelled, read⟩ := exists_pieces written
  obtain ⟨all, same, whole⟩ := spells_bracketed .curly spelled
  exact ⟨all, _, same, whole, reads_dict read⟩

end AgentFlow.Target
