import AgentFlow.Proofs.Expr.Parsing
import Mathlib.Data.List.Basic

/-!
# Written strings as expressions

Strings are written for generated code by one table of escapes and read in expressions by another,
with more letters in it.  What the first writes, the second reads back.  So a written string is one
token, wherever it stands, and an object of written strings is parsed.
-/

namespace AgentFlow.Expr

open List Grammar
open CodePoint (quotation backslash ofNat unit16Escape toNat encoded)

/-! ## Reading what is written -/

variable {start column position : Nat} {c e : CodePoint} {rest : Text}

theorem readQuoted_itself (notMark : c ≠ quotation) (notEscape : c ≠ backslash) :
    readQuoted quotation start column (c :: rest) = do
      let (value, used) ← readQuoted quotation start (column + 1) rest
      return (c :: value, used + 1) := by
  rw [readQuoted.eq_def]
  exact (if_neg notMark).trans (if_neg notEscape)

theorem readQuoted_letter (known : escapeValue? e = some c) (notDigits : e ≠ 'u') :
    readQuoted quotation start column (backslash :: e :: rest) = do
      let (value, used) ← readQuoted quotation start (column + 2) rest
      return (c :: value, used + 2) := by
  rw [readQuoted.eq_def]
  simp only [known]
  exact if_neg notDigits

theorem readQuoted_digits {n : Nat} {h1 h2 h3 h4 : CodePoint}
    (value : Text.hexValue? [h1, h2, h3, h4] = some n) :
    readQuoted quotation start column
        (backslash :: 'u' :: h1 :: h2 :: h3 :: h4 :: rest) = do
      let (value, used) ← readQuoted quotation start (column + 6) rest
      return (ofNat n :: value, used + 6) := by
  rw [readQuoted.eq_def]
  simp only [value]
  rfl

theorem unit16Escape_spec (small : c.toNat < 0x20) : ∃ h1 h2 h3 h4,
    unit16Escape c.toNat = [backslash, 'u', h1, h2, h3, h4] ∧
      Text.hexValue? [h1, h2, h3, h4] = some c.toNat ∧ ofNat c.toNat = c := by
  have spelled : ∀ n < 0x20, (Text.ofHex 4 n).length = 4 ∧ (Text.ofHex 4 n).hexValue? = some n := by
    decide
  have same : ofNat c.toNat = c := by
    rw [ofNat, if_pos (by omega)]
    cases c with
    | scalar char => rw [CodePoint.toNat, Char.ofNat_toNat]
    | surrogate offset => rw [CodePoint.toNat] at small; omega
  obtain ⟨four, value⟩ := spelled c.toNat small
  rw [unit16Escape]
  generalize Text.ofHex 4 c.toNat = digits at four value ⊢
  cases digits with
  | nil => cases four
  | cons h1 rest =>
    obtain ⟨h2, h3, h4, rfl⟩ := length_eq_three.1 (Nat.succ.inj four)
    exact ⟨h1, h2, h3, h4, rfl, value, same⟩

/-- **One code point.**  What is written for it is read as that code point. -/
theorem readQuoted_encoded (c : CodePoint) (rest : Text) :
    readQuoted quotation start column (c.encoded ++ rest) = do
      let (value, used) ← readQuoted quotation start (column + c.encoded.length) rest
      return (c :: value, used + c.encoded.length) := by
  by_cases letter :
      c ∈ ([quotation, backslash, '\n', '\r', '\t', '\x08', '\x0c'] : Text)
  · simp only [mem_cons, not_mem_nil, or_false] at letter
    rcases letter with rfl | rfl | rfl | rfl | rfl | rfl | rfl
    all_goals exact readQuoted_letter rfl (by decide)
  simp only [mem_cons, not_mem_nil, or_false, not_or] at letter
  have written : c.encoded = if c.toNat < 0x20 then unit16Escape c.toNat else [c] := by
    simp only [encoded, letter, or_self, if_false]
  rw [written]
  split
  · next small =>
    obtain ⟨h1, h2, h3, h4, digits, value, same⟩ := unit16Escape_spec small
    have read := @readQuoted_digits start column rest _ _ _ _ _ value
    rw [same] at read
    rw [digits]
    exact read
  · exact readQuoted_itself letter.1 letter.2.1

/-- **A whole string.**  The contents are read up to and including the closing quotation mark. -/
theorem readQuoted_contents (s rest : Text) :
    readQuoted quotation start column
        (s.flatMap encoded ++ [quotation] ++ rest) =
      .ok (s, (s.flatMap encoded ++ [quotation]).length) := by
  induction s generalizing column with
  | nil => rw [flatMap_nil, nil_append, singleton_append, readQuoted.eq_def]; rfl
  | cons c s ih =>
    have width : (s.flatMap encoded ++ [quotation]).length + c.encoded.length =
        (c.encoded ++ (s.flatMap encoded ++ [quotation])).length := by
      simp only [length_append]
      omega
    rw [flatMap_cons, append_assoc c.encoded, append_assoc c.encoded, readQuoted_encoded, ih,
      ← width]
    rfl

/-! ## Tokens of written strings -/

def stringToken (s : Text) (position : Nat) : Token := ⟨.string s, s.doubleQuoted, position, nofun⟩

theorem plain_of_symbol (symbol : Symbol) (same : Token.Kind.symbol symbol = .word) :
    ∀ point ∈ symbol.text, point.isSurrogate = false := nomatch same

def symbolToken (symbol : Symbol) (position : Nat) : Token :=
  ⟨.symbol symbol, symbol.text, position, plain_of_symbol symbol⟩

variable {tokens : List Token}

theorem tokensFrom_lexeme {tail : Text} {token : Token} (visible : c.isBlank = false)
    (read : readToken position c (tail ++ rest) = .ok (token, tail.length))
    (later : tokensFrom (position + (c :: tail).length) rest = .ok tokens) :
    tokensFrom position (c :: tail ++ rest) = .ok (token :: tokens) := by
  have next : position + (c :: tail).length = position + 1 + tail.length := by
    rw [length_cons]
    omega
  rw [next] at later
  rw [cons_append, tokensFrom.eq_def]
  simp [visible, read, later]

theorem tokensFrom_doubleQuoted (s : Text)
    (later : tokensFrom (position + s.doubleQuoted.length) rest = .ok tokens) :
    tokensFrom position (s.doubleQuoted ++ rest) = .ok (stringToken s position :: tokens) := by
  refine tokensFrom_lexeme (by decide) ?_ later
  rw [readToken, if_pos (.inl rfl), readQuoted_contents]
  simp only [take_left]
  rfl

theorem tokensFrom_symbol {symbol : Symbol} (listed : symbol ∈ [.openBrace, .colon, .closeBrace])
    (later : tokensFrom (position + 1) rest = .ok tokens) :
    tokensFrom position (symbol.text ++ rest) = .ok (symbolToken symbol position :: tokens) := by
  simp only [mem_cons, not_mem_nil, or_false] at listed
  rcases listed with rfl | rfl | rfl
  all_goals exact @tokensFrom_lexeme _ _ _ _ [] _ (by decide) rfl later

theorem tokensFrom_blank (blank : c.isBlank = true) :
    tokensFrom position (c :: rest) = tokensFrom (position + 1) rest := by
  rw [tokensFrom.eq_def]
  exact if_pos blank

theorem tokenize_doubleQuoted (s : Text) :
    tokenize s.doubleQuoted = .ok [stringToken s 0, Token.finish s.doubleQuoted.length] := by
  have read := @tokensFrom_doubleQuoted 0 [] _ s (tokensFrom.eq_1 _)
  rw [append_nil, Nat.zero_add] at read
  exact read

theorem tokenize_entry (s t : Text) : ∃ key colon value closing,
    tokenize ("\x7b" ++ s.doubleQuoted ++ ": " ++ t.doubleQuoted ++ "\x7d") =
      .ok [symbolToken .openBrace 0, stringToken s key, symbolToken .colon colon,
        stringToken t value, symbolToken .closeBrace closing, Token.finish (closing + 1)] := by
  -- From the end, since the tokens after a lexeme are what its own lemma asks for.
  have closes (position : Nat) : tokensFrom position ("\x7d" : Text) =
      .ok [symbolToken .closeBrace position, Token.finish (position + 1)] :=
    @tokensFrom_symbol _ [] _ .closeBrace (by decide) (tokensFrom.eq_1 _)
  have value (position : Nat) :=
    tokensFrom_doubleQuoted t (closes (position + t.doubleQuoted.length))
  have colon (position : Nat) := @tokensFrom_symbol position (' ' :: (t.doubleQuoted ++ "\x7d")) _
    .colon (by decide) ((tokensFrom_blank (by decide)).trans (value _))
  have opens := @tokensFrom_symbol 0 _ _ .openBrace (by decide)
    (tokensFrom_doubleQuoted s (colon _))
  rw [append_assoc, append_assoc, append_assoc]
  exact ⟨_, _, _, _, opens⟩

theorem parse_entry {s : Text} (some : s ≠ []) (t : Text) :
    parse ("\x7b" ++ s.doubleQuoted ++ ": " ++ t.doubleQuoted ++ "\x7d") =
      .ok (.object [(s, .literal (.string t))]) := by
  obtain ⟨key, colon, value, closing, lexed⟩ := tokenize_entry s t
  let entry : Entry :=
    ⟨stringToken s key, s, symbolToken .colon colon, [stringToken t value], .literal (.string t)⟩
  have object : Derives .primary
      (symbolToken .openBrace 0 :: entry.tokens ++ [symbolToken .closeBrace closing])
      (.object [(s, .literal (.string t))]) :=
    @Derives.object _ _ _ [entry] rfl .last (forall_mem_singleton.2 ⟨⟨.inr rfl, some⟩, rfl⟩)
      (forall_mem_singleton.2 (Derives.atLevel (.string rfl) .or)) rfl
  obtain ⟨span, finish, whole, isFinish, proper⟩ := exists_finish lexed
  have parsed := (parseTokens_eq_ok_iff whole isFinish proper).2
    ⟨_, Token.finish (closing + 1), rfl, rfl, object.atLevel .or⟩
  simp only [parse, lexed, bind, Except.bind, parsed]
  rfl

/-- **What is written is read back.**  A text, whatever its code points are, is written so that an
expression reads it as one string, which is that text.  So an entry of an object is read back as
well, unless its name is empty. -/
theorem tokenize_and_parse_written (s t : Text) : ∃ name value : Text,
    AgentFlow.Literal.writeAtom (.scalar (.str s)) = .ok name ∧
      AgentFlow.Literal.writeAtom (.scalar (.str t)) = .ok value ∧
      (∃ token, tokenize name = .ok [token, Token.finish name.length] ∧
        token.kind = .string s ∧ token.position = 0) ∧
      (s ≠ [] → parse ("\x7b" ++ name ++ ": " ++ value ++ "\x7d") =
        .ok (.object [(s, .literal (.string t))])) :=
  ⟨s.doubleQuoted, t.doubleQuoted, rfl, rfl, ⟨_, tokenize_doubleQuoted s, rfl, rfl⟩,
    fun some => parse_entry some t⟩

/-- A lone surrogate, both marks that are escaped and a control character, as name and as value. -/
theorem tokenize_and_parse_written_escapes : ∃ name value : Text,
    AgentFlow.Literal.writeAtom (.scalar (.str [.surrogate 0, '"', '\\', '\x07'])) = .ok name ∧
      AgentFlow.Literal.writeAtom (.scalar (.str ['\x7f', .surrogate 2047])) = .ok value ∧
      parse ("\x7b" ++ name ++ ": " ++ value ++ "\x7d") =
        .ok (.object [([.surrogate 0, '"', '\\', '\x07'],
          .literal (.string ['\x7f', .surrogate 2047]))]) := by
  obtain ⟨name, value, named, valued, -, parsed⟩ :=
    tokenize_and_parse_written [.surrogate 0, '"', '\\', '\x07'] ['\x7f', .surrogate 2047]
  exact ⟨name, value, named, valued, parsed nofun⟩

end AgentFlow.Expr
