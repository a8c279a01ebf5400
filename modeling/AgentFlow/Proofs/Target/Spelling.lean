import AgentFlow.Proofs.Target.Numeral

/-!
# Texts that spell tokens

A text spells tokens when the lexer, wherever it stands inside brackets, reads these tokens from it
and goes on after it.  Characters say what has to follow them: after an operand something that
closes it, after a word something that ends it, after a mark anything.
-/

namespace AgentFlow.Target

open List
open String (ofList singleton)
open Char (ofNat ofNat_toNat)

variable {left : List Char}

/-! ## Where strings start -/

/-- Whether a string literal may start with a character: a quote, or one of a few letters. -/
def startsString (c : Char) : Bool := c ∈ ['"', '\x27'] || c.toLower ∈ ['u', 'r', 'b', 'f']

variable {c : Char} {rest gaps : List Char} {name : Text}

theorem readString?_none (plain : startsString c = false) (rest : List Char) :
    readString? (c :: rest) = none := by
  simp only [startsString, Bool.or_eq_false_iff, decide_eq_false_iff_not, mem_cons, not_or] at plain
  rw [readString?, Option.map_eq_none_iff, stringStart?.eq_def]
  simp only [plain, decide_false, Bool.or_self, Bool.false_eq_true, if_false]
  split
  · split
    · simp [plain]
    · split
      · split
        · simp [plain]
        · rfl
      · rfl
  · rfl

theorem not_quote_of_continuesName (continues : continuesName c = true) : c ≠ '"' ∧ c ≠ '\x27' := by
  constructor <;> rintro rfl <;> exact absurd continues (by decide)

/-- Whether a text can follow a word: it can follow an operand, or it starts with a point or an
equals sign. -/
def endsWord : List Char → Bool
  | [] => true
  | c :: _ => c ∈ '.' :: '=' :: closers

theorem endsWord_of_closes (closed : closes left = true) : endsWord left = true := by
  cases left with
  | nil => rfl
  | cons c rest =>
    have closer : c ∈ closers := of_decide_eq_true closed
    simp [endsWord, closer]

/-- What follows a word is nothing or starts with a character that neither goes on with the word nor
makes it a part of a string literal. -/
theorem endsWord_cases (ended : endsWord left = true) :
    left = [] ∨ ∃ c rest, left = c :: rest ∧ continuesName c = false ∧ c ∉ ['"', '\x27'] ∧
      c.toLower ∉ ['r', 'b', 'f'] := by
  have all : ∀ c ∈ '.' :: '=' :: closers, continuesName c = false ∧ c ∉ ['"', '\x27'] ∧
      c.toLower ∉ ['r', 'b', 'f'] := by decide
  cases left with
  | nil => exact .inl rfl
  | cons c rest => exact .inr ⟨c, rest, rfl, all c (of_decide_eq_true ended)⟩

theorem readString?_word {word : List Char} (some : word ≠ [])
    (continues : ∀ c ∈ word, continuesName c = true) (ended : endsWord left = true) :
    readString? (word ++ left) = none := by
  rw [readString?, Option.map_eq_none_iff]
  obtain ⟨a, rest, rfl⟩ := exists_cons_of_ne_nil some
  have first := not_quote_of_continuesName (continues a mem_cons_self)
  cases rest with
  | nil =>
    rcases endsWord_cases ended with rfl | ⟨b, more, rfl, -, marks, plain⟩
    · simp [stringStart?, first]
    · simp only [mem_cons, not_or] at marks plain
      cases more with
      | nil => simp [stringStart?, first, marks]
      | cons c others =>
        simp only [stringStart?, cons_append, nil_append, first, marks, decide_false,
          Bool.or_self, Bool.false_eq_true, if_false]
        split
        · simp [plain]
        · rfl
  | cons b others =>
    have second := not_quote_of_continuesName (continues b (mem_cons_of_mem a mem_cons_self))
    cases others with
    | nil =>
      rcases endsWord_cases ended with rfl | ⟨c, more, rfl, -, marks, -⟩
      · simp [stringStart?, first, second]
      · simp only [mem_cons, not_or] at marks
        simp [stringStart?, first, second, marks]
    | cons c more =>
      have third := not_quote_of_continuesName
        (continues c (mem_cons_of_mem a (mem_cons_of_mem b mem_cons_self)))
      simp [stringStart?, first, second, third]

/-! ## Words -/

theorem readToken_word (starts : startsName c = true)
    (continues : ∀ d ∈ c :: rest, continuesName d = true) (ended : endsWord left = true) :
    readToken (c :: rest ++ left) =
      if ofList (c :: rest) ∈ keywords then
        some (.keyword (ofList (c :: rest)), left)
      else if (Text.ofChars (c :: rest)).isIdentifier then
        some (.name (Text.ofChars (c :: rest)).normalForm, left)
      else none := by
  have stopped : left.takeWhile continuesName = [] ∧ left.dropWhile continuesName = left := by
    rcases endsWord_cases ended with rfl | ⟨d, more, rfl, outside, -⟩
    · exact ⟨rfl, rfl⟩
    · exact ⟨takeWhile_cons_of_neg (by simp [outside]), dropWhile_cons_of_neg (by simp [outside])⟩
  have taken : (c :: rest ++ left).takeWhile continuesName = c :: rest := by
    rw [takeWhile_append_of_pos continues, stopped.1, append_nil]
  have dropped : (c :: rest ++ left).dropWhile continuesName = left := by
    rw [dropWhile_append_of_pos continues, stopped.2]
  have noString := readString?_word (cons_ne_nil c rest) continues ended
  rw [cons_append] at taken dropped noString ⊢
  simp only [readToken, noString, starts, if_true, taken, dropped]

/-! ## Operators -/

/-- Whether an operator may start with a character that starts nothing else. -/
def startsOperator (c : Char) : Bool :=
  !startsString c && !startsName c && !c.isDigit && c ≠ '.'

theorem readToken_operator (plain : startsOperator c = true) (rest : List Char) :
    readToken (c :: rest) =
      (operators.find? fun op => op.toList.isPrefixOf (c :: rest)).map fun op =>
        (.op op, (c :: rest).drop op.length) := by
  simp only [startsOperator, Bool.and_eq_true, Bool.not_eq_true', decide_eq_true_eq] at plain
  simp [readToken, readString?_none plain.1.1.1, plain]

/-- Whether a character can stand on a line of code: no line break and no NUL. -/
def fitsLine (c : Char) : Bool := c ∉ ['\n', '\r', '\x00']

theorem ne_return_of_fitsLine (fits : fitsLine c = true) : c ≠ '\r' := by
  rintro rfl
  exact absurd fits (by decide)

/-- Whether a token can start with a character: no gap, no line break, no comment. -/
def beginsToken (c : Char) : Bool := c ∉ [' ', '\t', '\x0c', '\n', '#', '\\']

/-- Whether a token can start with a character wherever it stands: an operator before it could not
go on with it either. -/
def opensToken (c : Char) : Bool := beginsToken c && c ∉ ['=', '>']

theorem begins_of_opens (opens : opensToken c = true) : beginsToken c = true :=
  (Bool.and_eq_true _ _ ▸ opens).1

theorem readToken_sign {d : Char} (sign : c = '+' ∨ c = '-') (opens : opensToken d = true)
    (rest : List Char) :
    readToken (c :: d :: rest) = some (.op (singleton c), d :: rest) := by
  simp only [opensToken, Bool.and_eq_true, decide_eq_true_eq, mem_cons, not_or] at opens
  rcases sign with rfl | rfl
  · rw [readToken_operator (by decide)]
    simp [operators, Ne.symm opens.2.1]
    rfl
  · rw [readToken_operator (by decide)]
    simp [operators, Ne.symm opens.2.1, Ne.symm opens.2.2.1]
    rfl

/-! ## Steps of the lexer -/

theorem tokensFrom_gaps (areGaps : ∀ c ∈ gaps, isGap c = true) (fuel depth : Nat) (s : List Char) :
    tokensFrom fuel depth false (gaps ++ s) = tokensFrom fuel depth false s := by
  cases fuel with
  | zero => rfl
  | succ fuel =>
    simp only [tokensFrom, Bool.false_eq_true, if_false, dropWhile_append_of_pos areGaps]

theorem tokensFrom_token {token : Token} (begins : beginsToken c = true)
    (read : readToken (c :: rest) = some (token, left)) (fuel depth : Nat) :
    tokensFrom (fuel + 1) depth false (c :: rest) =
      (tokensFrom fuel (nextDepth depth token) false left).map (token :: ·) := by
  simp only [beginsToken, decide_eq_true_eq, mem_cons, not_or] at begins
  have noGap : (c :: rest).dropWhile isGap = c :: rest :=
    dropWhile_cons_of_neg (by simp [isGap, begins])
  rw [tokensFrom]
  simp only [Bool.false_eq_true, if_false, noGap, Option.bind_eq_bind, Option.bind_some]
  split
  · next equal => exact absurd (List.cons.inj equal).1 begins.2.2.2.1
  · next equal => exact absurd (List.cons.inj equal).1 begins.2.2.2.2.1
  · next equal => exact absurd (List.cons.inj equal).1 begins.2.2.2.2.2.1
  · rw [read]
    simp only [isEmpty_cons, Bool.false_eq_true, if_false, Option.bind_some]
    cases tokensFrom fuel (nextDepth depth token) false left <;> rfl

/-- A line that is not indented is read like what follows on a line. -/
theorem tokensFrom_fresh (opens : opensToken c = true) (rest : List Char) (fuel depth : Nat) :
    tokensFrom fuel depth true (c :: rest) = tokensFrom fuel depth false (c :: rest) := by
  cases fuel with
  | zero => rfl
  | succ fuel =>
    have begins := begins_of_opens opens
    simp only [beginsToken, decide_eq_true_eq, mem_cons, not_or] at begins
    have noGap : isGap c = false := by simp [isGap, begins]
    have start : lineStart ((c :: rest).length + 1) false false (c :: rest) =
        some (false, c :: rest) := by
      rw [lineStart, takeWhile_cons_of_neg (by simp [noGap]),
        dropWhile_cons_of_neg (by simp [noGap])]
      split
      · next equal => exact absurd (List.cons.inj equal).1 begins.2.2.2.2.2.1
      · next equal => exact absurd (List.cons.inj equal).1 begins.2.2.2.2.2.1
      · rfl
    simp only [tokensFrom, if_true, start, Bool.false_eq_true, if_false,
      dropWhile_cons_of_neg (show ¬isGap c = true by simp [noGap]), Option.bind_eq_bind,
      Option.bind_some]
    split
    · next equal => exact absurd (List.cons.inj equal).1 begins.2.2.2.1
    · next equal => exact absurd (List.cons.inj equal).1 begins.2.2.2.2.1
    · rfl
    · rfl

/-! ## Characters that are read as tokens -/

/-- Characters that the lexer reads as tokens, at every depth from the least one on, when what
follows them is as required. -/
structure Lexes (follows : List Char → Bool) (least : Nat) (chars : List Char)
    (tokens : List Token) : Prop where
  unbroken : ∀ c ∈ chars, c ≠ '\r'
  reads : ∃ steps, tokens.length ≤ steps ∧ steps ≤ chars.length ∧
    ∀ (fuel depth : Nat) (left : List Char), least ≤ depth → follows left = true →
      tokensFrom (fuel + steps) depth false (chars ++ left) =
        (tokensFrom fuel depth false left).map (tokens ++ ·)

/-- What a mark requires to follow it: nothing in particular. -/
def anything (_ : List Char) : Bool := true

def opensOperand : List Char → Bool
  | [] => false
  | c :: _ => opensToken c

variable {follows further : List Char → Bool} {least : Nat} {chars more between : List Char}
  {tokens others : List Token} {token : Token}

theorem opensOperand_append (opens : opensOperand chars = true) :
    opensOperand (chars ++ left) = true := by
  cases chars with
  | nil => cases opens
  | cons c rest => exact opens

theorem closes_append (some : chars ≠ []) (closed : closes chars = true) :
    closes (chars ++ left) = true := by
  obtain ⟨c, rest, rfl⟩ := exists_cons_of_ne_nil some
  exact closed

namespace Lexes

theorem single {c : Char} {rest : List Char} (unbroken : ∀ d ∈ c :: rest, d ≠ '\r')
    (begins : beginsToken c = true) (flat : ∀ depth, nextDepth depth token = depth)
    (read : ∀ left, follows left = true → readToken (c :: rest ++ left) = some (token, left)) :
    Lexes follows 0 (c :: rest) [token] where
  unbroken := unbroken
  reads := by
    refine ⟨1, Nat.le_refl 1, by simp, fun fuel depth left _ followed => ?_⟩
    have step := tokensFrom_token begins (read left followed) fuel depth
    rw [flat] at step
    exact step

theorem nil : Lexes follows least [] [] where
  unbroken := nofun
  reads := ⟨0, Nat.le_refl 0, Nat.le_refl 0, fun fuel depth left _ _ => by simp⟩

theorem append (first : Lexes follows least chars tokens) (second : Lexes further least more others)
    (fits : ∀ left, further left = true → follows (more ++ left) = true) :
    Lexes further least (chars ++ more) (tokens ++ others) where
  unbroken := forall_mem_append.2 ⟨first.unbroken, second.unbroken⟩
  reads := by
    obtain ⟨steps, enough, few, reads⟩ := first.reads
    obtain ⟨steps', enough', few', reads'⟩ := second.reads
    refine ⟨steps' + steps, ?_, ?_, fun fuel depth left deep followed => ?_⟩
    · rw [length_append]
      omega
    · rw [length_append]
      omega
    · rw [← Nat.add_assoc, append_assoc, reads _ depth _ deep (fits left followed),
        reads' fuel depth left deep followed, Option.map_map]
      simp [Function.comp_def]

theorem deepen (lexed : Lexes follows 0 chars tokens) : Lexes follows least chars tokens where
  unbroken := lexed.unbroken
  reads := by
    obtain ⟨steps, enough, few, reads⟩ := lexed.reads
    exact ⟨steps, enough, few, fun fuel depth left _ => reads fuel depth left (Nat.zero_le depth)⟩

theorem restrict (lexed : Lexes anything least chars tokens) :
    Lexes follows least chars tokens where
  unbroken := lexed.unbroken
  reads := by
    obtain ⟨steps, enough, few, reads⟩ := lexed.reads
    exact ⟨steps, enough, few, fun fuel depth left deep _ => reads fuel depth left deep rfl⟩

theorem length_le (lexed : Lexes follows least chars tokens) :
    tokens.length ≤ chars.length := by
  obtain ⟨steps, enough, few, -⟩ := lexed.reads
  omega

end Lexes

theorem unifyBreaks_eq (unbroken : ∀ c ∈ chars, c ≠ '\r') : unifyBreaks chars = chars := by
  induction chars with
  | nil => rfl
  | cons c rest ih =>
    obtain ⟨head, others⟩ := forall_mem_cons.1 unbroken
    rw [unifyBreaks, ih others]
    · rintro rest' rfl
      exact absurd rfl head
    · rintro rfl
      exact absurd rfl head

/-- **Characters that are read as tokens at every depth are split into them.** -/
theorem Lexes.tokenize (lexed : Lexes closes 0 chars tokens) (opens : opensOperand chars = true) :
    tokenize chars = some tokens := by
  obtain ⟨steps, -, few, reads⟩ := lexed.reads
  obtain ⟨fuel, enough⟩ : ∃ fuel, chars.length + 1 = fuel + 1 + steps :=
    ⟨chars.length - steps, by omega⟩
  have read := reads (fuel + 1) 0 [] (Nat.le_refl 0) rfl
  rw [append_nil] at read
  cases chars with
  | nil => cases opens
  | cons c rest =>
    rw [Target.tokenize, unifyBreaks_eq lexed.unbroken, enough, tokensFrom_fresh opens, read]
    simp [tokensFrom]

/-! ## Spelling -/

/-- A text spells a list of tokens on one line, and it can stand where an operand can. -/
structure Spells (chars : List Char) (tokens : List Token) : Prop where
  unbroken : ∀ c ∈ chars, fitsLine c = true
  opens : opensOperand chars = true
  lexes : Lexes closes 0 chars tokens

/-- A text before or between operands that spells one token, whatever follows. -/
structure Marks (chars : List Char) (token : Token) : Prop where
  unbroken : ∀ c ∈ chars, fitsLine c = true
  some : chars ≠ []
  lexes : Lexes anything 0 chars [token]

namespace Spells

variable {c : Char} {rest : List Char}

theorem single (unbroken : ∀ d ∈ c :: rest, fitsLine d = true) (opens : opensToken c = true)
    (flat : ∀ depth, nextDepth depth token = depth)
    (read : ∀ left, closes left = true → readToken (c :: rest ++ left) = some (token, left)) :
    Spells (c :: rest) [token] where
  unbroken := unbroken
  opens := opens
  lexes := .single (fun d member => ne_return_of_fitsLine (unbroken d member))
    (begins_of_opens opens) flat read

theorem append (first : Spells chars tokens) (second : Spells more others)
    (closed : closes more = true) : Spells (chars ++ more) (tokens ++ others) where
  unbroken := forall_mem_append.2 ⟨first.unbroken, second.unbroken⟩
  opens := opensOperand_append first.opens
  lexes := by
    have some : more ≠ [] := by
      rintro rfl
      cases second.opens
    exact first.lexes.append second.lexes fun _ _ => closes_append some closed

theorem joined (first : Spells chars tokens) (mark : Marks between token)
    (closed : closes between = true) (second : Spells more others) :
    Spells (chars ++ (between ++ more)) (tokens ++ token :: others) where
  unbroken := forall_mem_append.2
    ⟨first.unbroken, forall_mem_append.2 ⟨mark.unbroken, second.unbroken⟩⟩
  opens := opensOperand_append first.opens
  lexes := by
    have later := mark.lexes.append second.lexes fun _ _ => rfl
    refine first.lexes.append later fun left _ => ?_
    rw [append_assoc]
    exact closes_append mark.some closed

theorem prefixed (mark : Marks (c :: rest) token) (opens : opensToken c = true)
    (spelled : Spells chars tokens) : Spells (c :: rest ++ chars) (token :: tokens) where
  unbroken := forall_mem_append.2 ⟨mark.unbroken, spelled.unbroken⟩
  opens := opens
  lexes := mark.lexes.append spelled.lexes fun _ _ => rfl

theorem signed (sign : c = '+' ∨ c = '-') (spelled : Spells chars tokens) :
    Spells (c :: chars) (.op (singleton c) :: tokens) := by
  obtain ⟨fits, opens, flat⟩ : fitsLine c = true ∧ opensToken c = true ∧
      ∀ depth, nextDepth depth (.op (singleton c)) = depth := by
    rcases sign with rfl | rfl <;> exact ⟨rfl, rfl, fun _ => rfl⟩
  have first : Lexes opensOperand 0 [c] [.op (singleton c)] := by
    refine .single (forall_mem_singleton.2 (ne_return_of_fitsLine fits)) (begins_of_opens opens)
      flat fun left operand => ?_
    cases left with
    | nil => cases operand
    | cons d rest => exact readToken_sign sign operand rest
  exact ⟨forall_mem_cons.2 ⟨fits, spelled.unbroken⟩, opens,
    first.append spelled.lexes fun _ _ => opensOperand_append spelled.opens⟩

end Spells

/-! ## Brackets -/

inductive Bracket where
  | round
  | square
  | curly
deriving DecidableEq, Repr

namespace Bracket

def first : Bracket → Char
  | round => '('
  | square => '['
  | curly => '\x7b'

def last : Bracket → Char
  | round => ')'
  | square => ']'
  | curly => '\x7d'

def opening : Bracket → Token
  | round => .op "("
  | square => .op "["
  | curly => .op "\x7b"

def closing : Bracket → Token
  | round => .op ")"
  | square => .op "]"
  | curly => .op "\x7d"

theorem readToken_first (bracket : Bracket) (rest : List Char) :
    readToken (bracket.first :: rest) = some (bracket.opening, rest) := by
  cases bracket <;> exact readToken_operator (by decide) rest

theorem readToken_last (bracket : Bracket) (rest : List Char) :
    readToken (bracket.last :: rest) = some (bracket.closing, rest) := by
  cases bracket <;> exact readToken_operator (by decide) rest

theorem opens_first (bracket : Bracket) : opensToken bracket.first = true := by
  cases bracket <;> rfl

theorem begins_last (bracket : Bracket) : beginsToken bracket.last = true := by
  cases bracket <;> rfl

theorem closes_last (bracket : Bracket) (rest : List Char) :
    closes (bracket.last :: rest) = true := by
  cases bracket <;> rfl

theorem nextDepth_opening (bracket : Bracket) (depth : Nat) :
    nextDepth depth bracket.opening = depth + 1 := by
  cases bracket <;> rfl

theorem nextDepth_closing (bracket : Bracket) (depth : Nat) :
    nextDepth (depth + 1) bracket.closing = depth := by
  cases bracket <;> rfl

theorem unbroken (bracket : Bracket) :
    fitsLine bracket.first = true ∧ fitsLine bracket.last = true := by
  cases bracket <;> decide

end Bracket

theorem Lexes.bracketed (bracket : Bracket) (lexed : Lexes follows 1 chars tokens)
    (fits : ∀ left, follows (bracket.last :: left) = true) :
    Lexes anything 0 (bracket.first :: (chars ++ [bracket.last]))
      (bracket.opening :: (tokens ++ [bracket.closing])) where
  unbroken := by
    simp only [forall_mem_cons, forall_mem_append]
    exact ⟨ne_return_of_fitsLine bracket.unbroken.1, lexed.unbroken,
      ne_return_of_fitsLine bracket.unbroken.2, nofun⟩
  reads := by
    obtain ⟨steps, enough, few, reads⟩ := lexed.reads
    refine ⟨1 + steps + 1, ?_, ?_, fun fuel depth left _ _ => ?_⟩
    · simp only [length_append, length_cons, length_nil]
      omega
    · simp only [length_append, length_cons, length_nil]
      omega
    · have step :=
        tokensFrom_token bracket.begins_last (bracket.readToken_last left) fuel (depth + 1)
      rw [bracket.nextDepth_closing] at step
      rw [← Nat.add_assoc, ← Nat.add_assoc, cons_append, append_assoc,
        singleton_append,
        tokensFrom_token (begins_of_opens bracket.opens_first) (bracket.readToken_first _),
        bracket.nextDepth_opening, reads _ _ _ (Nat.le_add_left 1 depth) (fits left), step,
        Option.map_map, Option.map_map]
      simp [Function.comp_def]

namespace Spells

theorem enclosed (bracket : Bracket) (spelled : Spells chars tokens) :
    Spells (bracket.first :: (chars ++ [bracket.last]))
      (bracket.opening :: (tokens ++ [bracket.closing])) where
  unbroken := by
    simp only [forall_mem_cons, forall_mem_append]
    exact ⟨bracket.unbroken.1, spelled.unbroken, bracket.unbroken.2, nofun⟩
  opens := bracket.opens_first
  lexes := (spelled.lexes.deepen.bracketed bracket bracket.closes_last).restrict

theorem empty (bracket : Bracket) :
    Spells [bracket.first, bracket.last] [bracket.opening, bracket.closing] where
  unbroken := by
    simp only [forall_mem_cons]
    exact ⟨bracket.unbroken.1, bracket.unbroken.2, nofun⟩
  opens := bracket.opens_first
  lexes := (Lexes.nil.bracketed bracket bracket.closes_last).restrict

end Spells

/-! ## Words -/

theorem unbroken_of_continuesName (continues : continuesName c = true) : fitsLine c = true := by
  simp only [fitsLine, decide_eq_true_eq, mem_cons, not_mem_nil, or_false]
  rintro (rfl | rfl | rfl) <;> exact absurd continues (by decide)

theorem opens_of_startsName (starts : startsName c = true) : opensToken c = true := by
  by_contra closed
  have member : c ∈ [' ', '\t', '\x0c', '\n', '#', '\\', '=', '>'] := by
    simpa [opensToken, beginsToken, or_assoc, Decidable.imp_iff_not_or] using closed
  revert starts
  simp only [mem_cons, not_mem_nil, or_false] at member
  rcases member with rfl | rfl | rfl | rfl | rfl | rfl | rfl | rfl <;> decide

theorem spells_keyword (starts : startsName c = true)
    (continues : ∀ d ∈ c :: rest, continuesName d = true)
    (reserved : ofList (c :: rest) ∈ keywords) :
    Spells (c :: rest) [.keyword (ofList (c :: rest))] :=
  .single (fun d member => unbroken_of_continuesName (continues d member))
    (opens_of_startsName starts) (fun _ => rfl) fun left closed => by
      rw [readToken_word starts continues (endsWord_of_closes closed), if_pos reserved]

theorem ascii_identifier {n : Nat} (small : n < 128) :
    ((CodePoint.scalar (ofNat n)).startsIdentifier → startsName (ofNat n)) ∧
      ((CodePoint.scalar (ofNat n)).continuesIdentifier → continuesName (ofNat n)) := by
  revert n
  decide +kernel

theorem chars_of_ascii {t : Text} (ascii : t.all (·.toNat < 0x80) = true) :
    ∃ chars, t = Text.ofChars chars ∧ ∀ c ∈ chars, c.toNat < 128 := by
  induction t with
  | nil => exact ⟨[], rfl, nofun⟩
  | cons point rest ih =>
    simp only [all_cons, Bool.and_eq_true, decide_eq_true_eq] at ascii
    obtain ⟨chars, rfl, small⟩ := ih ascii.2
    cases point with
    | scalar c => exact ⟨c :: chars, rfl, forall_mem_cons.2 ⟨ascii.1, small⟩⟩
    | surrogate offset =>
      have : 0xD800 + offset.val < 0x80 := ascii.1
      omega

theorem readToken_identifier (identifier : name.isIdentifier = true)
    (ascii : name.all (·.toNat < 0x80) = true) (free : isKeyword name = false) :
    ∃ c rest, name = Text.ofChars (c :: rest) ∧ startsName c = true ∧
      (∀ d ∈ c :: rest, continuesName d = true) ∧
      ∀ left, endsWord left = true → readToken (c :: rest ++ left) = some (.name name, left) := by
  obtain ⟨chars, rfl, small⟩ := chars_of_ascii ascii
  cases chars with
  | nil => cases identifier
  | cons c rest =>
    have judged (d : Char) (member : d ∈ c :: rest) := ascii_identifier (small d member)
    simp only [ofNat_toNat] at judged
    have parts := identifier
    simp only [Text.ofChars, map_cons, Text.isIdentifier, Bool.and_eq_true, all_map,
      all_eq_true, Function.comp_apply] at parts
    have continues : ∀ d ∈ c :: rest, continuesName d = true := by
      refine forall_mem_cons.2 ⟨?_, fun d member => ?_⟩
      · refine (judged c mem_cons_self).2 ?_
        rw [CodePoint.continuesIdentifier, parts.1, Bool.true_or]
      · exact (judged d (mem_cons_of_mem c member)).2 (parts.2 d member)
    have unreserved : ofList (c :: rest) ∉ keywords := fun reserved => by
      have known : isKeyword (Text.ofChars (c :: rest)) = true :=
        any_eq_true.2 ⟨_, reserved, by simp [Text.ofString]⟩
      exact Bool.noConfusion (free.symm.trans known)
    have starts := (judged c mem_cons_self).1 parts.1
    refine ⟨c, rest, rfl, starts, continues, fun left ended => ?_⟩
    rw [readToken_word starts continues ended, if_neg unreserved, if_pos identifier,
      Text.normalForm, if_pos ascii]

/-- **An identifier of ASCII characters that is not reserved spells a name.** -/
theorem spells_identifier (identifier : name.isIdentifier = true)
    (ascii : name.all (·.toNat < 0x80) = true) (free : isKeyword name = false) :
    ∃ chars, name = Text.ofChars chars ∧ Spells chars [.name name] := by
  obtain ⟨c, rest, same, starts, continues, read⟩ := readToken_identifier identifier ascii free
  exact ⟨c :: rest, same, .single
    (fun d member => unbroken_of_continuesName (continues d member)) (opens_of_startsName starts)
    (fun _ => rfl) fun left closed => read left (endsWord_of_closes closed)⟩

/-! ## Numbers -/

/-- A number starts with a digit, and no string or name does. -/
theorem plain_of_isDigit (digit : c.isDigit = true) :
    startsString c = false ∧ startsName c = false ∧ opensToken c = true := by
  have small : c.toNat < 128 := by
    simp only [Char.isDigit, Bool.and_eq_true, decide_eq_true_eq, UInt32.le_iff_toNat_le] at digit
    exact Nat.lt_of_le_of_lt digit.2 (by decide)
  have all : ∀ n < 128, (ofNat n).isDigit = true → startsString (ofNat n) = false ∧
      startsName (ofNat n) = false ∧ opensToken (ofNat n) = true := by decide
  simpa only [ofNat_toNat] using all c.toNat small (by rwa [ofNat_toNat])

theorem unbroken_of_isNumeric (numeric : isNumeric c = true) : fitsLine c = true := by
  simp only [fitsLine, decide_eq_true_eq, mem_cons, not_mem_nil, or_false]
  rintro (rfl | rfl | rfl) <;> exact absurd numeric (by decide)

theorem spells_number {value : Constant} (digit : c.isDigit = true)
    (numeric : ∀ d ∈ c :: rest, isNumeric d = true)
    (read : ∀ left, closes left = true → readNumber (c :: rest ++ left) = some (value, left)) :
    Spells (c :: rest) [.number value] := by
  obtain ⟨noString, noName, opens⟩ := plain_of_isDigit digit
  refine .single (fun d member => unbroken_of_isNumeric (numeric d member)) opens (fun _ => rfl)
    fun left closed => ?_
  have number := read left closed
  rw [cons_append] at number ⊢
  simp [readToken, readString?_none noString, noName, digit, number]

theorem spells_nat (n : Nat) (short : (Nat.toDigits 10 n).length ≤ Numeral.digitLimit) :
    Spells (Nat.toDigits 10 n) [.number (.int n)] := by
  have areDigits := isDigit_toDigits n
  have read (left : List Char) (closed : closes left = true) := readNumber_toDigits n short closed
  obtain ⟨c, rest, equal⟩ := exists_cons_of_ne_nil (toDigits_ne_nil n)
  rw [equal] at areDigits read ⊢
  exact spells_number (areDigits c mem_cons_self)
    (fun d member => isNumeric_of_isDigit (areDigits d member)) read

theorem spells_double {x : Binary64} (finite : x.isFinite = true) :
    Spells (doubleChars x) [.number (.float x.unsigned)] := by
  have read (left : List Char) (closed : closes left = true) :=
    readNumber_doubleChars finite closed
  obtain ⟨c, rest, equal, digit, numeric⟩ := doubleChars_spec finite
  rw [equal] at read ⊢
  exact spells_number digit numeric read

/-! ## Marks -/

/-- A token with a space after it, and gaps before it, is a mark. -/
theorem marks_of_read (areGaps : ∀ d ∈ gaps, isGap d = true)
    (unbroken : ∀ d ∈ gaps ++ (c :: rest), fitsLine d = true) (begins : beginsToken c = true)
    (flat : ∀ depth, nextDepth depth token = depth)
    (read : ∀ left, readToken (c :: rest ++ ' ' :: left) = some (token, ' ' :: left)) :
    Marks (gaps ++ (c :: rest ++ [' '])) token := by
  have all : ∀ d ∈ gaps ++ (c :: rest ++ [' ']), fitsLine d = true := by
    rw [← append_assoc]
    exact forall_mem_append.2 ⟨unbroken, by decide⟩
  refine ⟨all, by simp, fun d member => ne_return_of_fitsLine (all d member), 1, Nat.le_refl 1,
    by simp; omega, fun fuel depth left _ _ => ?_⟩
  have space : tokensFrom fuel depth false (' ' :: left) = tokensFrom fuel depth false left :=
    tokensFrom_gaps (show ∀ d ∈ [' '], isGap d = true by decide) fuel depth left
  have step := tokensFrom_token begins (read left) fuel depth
  rw [flat, space] at step
  rw [append_assoc, tokensFrom_gaps areGaps, append_assoc]
  exact step

theorem marks_operator (op : String) (unbroken : ∀ d ∈ [' '] ++ (c :: rest), fitsLine d = true)
    (begins : beginsToken c = true) (flat : ∀ depth, nextDepth depth (.op op) = depth)
    (read : ∀ left, readToken (c :: rest ++ ' ' :: left) = some (.op op, ' ' :: left)) :
    Marks ([' '] ++ (c :: rest ++ [' '])) (.op op) :=
  marks_of_read (by decide) unbroken begins flat read

theorem marks_keyword (areGaps : ∀ d ∈ gaps, isGap d = true) (starts : startsName c = true)
    (continues : ∀ d ∈ c :: rest, continuesName d = true) (unbroken : ∀ d ∈ gaps, fitsLine d = true)
    (reserved : ofList (c :: rest) ∈ keywords) :
    Marks (gaps ++ (c :: rest ++ [' '])) (.keyword (ofList (c :: rest))) :=
  marks_of_read areGaps
    (forall_mem_append.2
      ⟨unbroken, fun d member => unbroken_of_continuesName (continues d member)⟩)
    (begins_of_opens (opens_of_startsName starts)) (fun _ => rfl) fun left => by
      rw [readToken_word starts continues (by rfl), if_pos reserved]

end AgentFlow.Target
