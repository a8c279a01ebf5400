import AgentFlow.Expr.Lexer
import AgentFlow.Proofs.Stoppable
import Mathlib.Data.List.TakeWhile

/-!
# Nothing is lost between a text and its tokens

The tokens of an expression cut its text into white space, one code point at a time, and lexemes,
one for each token.  A token stands where its lexeme starts.  Words and symbols are as long as they
can be.
-/

namespace AgentFlow.Expr

open List

/-! ## Pieces of a text -/

/-- A letter or an underscore, and then what a word can go on with. -/
def IsWord (lexeme : Text) : Prop :=
  ∃ c rest, lexeme = c :: rest ∧ startsWord c = true ∧ ∀ d ∈ rest, continuesWord d = true

def IsSymbol (lexeme : Text) : Prop := ∃ symbol : Symbol, symbol.text = lexeme

/-- A lexeme of a class is as long as one can be that starts at its position. -/
structure Longest (OfClass : Text → Prop) (lexeme rest : Text) : Prop where
  ofClass : OfClass lexeme
  longest : ∀ other, OfClass other → other <+: lexeme ++ rest → other.length ≤ lexeme.length

/-- A token is read from a lexeme, with a text after it. -/
def Token.ReadFrom (token : Token) (lexeme rest : Text) : Prop :=
  match token.kind with
  | .integer _ | .decimal _ | .string _ => token.text = lexeme
  | .word => token.text = lexeme ∧ Symbol.ofWord? lexeme = none ∧ Longest IsWord lexeme rest
  | .symbol symbol => token.text = symbol.text ∧
      (lexeme = symbol.text ∧ Longest IsSymbol lexeme rest ∨
        Symbol.ofWord? lexeme = some symbol ∧ Longest IsWord lexeme rest)
  | .finish => False

/-- A piece of an expression's text. -/
inductive Piece where
  | blank (point : CodePoint)
  | lexeme (text : Text) (token : Token)

namespace Piece

def text : Piece → Text
  | blank point => [point]
  | lexeme text _ => text

def token? : Piece → Option Token
  | blank _ => none
  | lexeme _ token => some token

/-- A piece is right at a position and before a text. -/
def Fits (position : Nat) (rest : Text) : Piece → Prop
  | blank point => point.isBlank = true
  | lexeme text token => text ≠ [] ∧ token.position = position ∧ token.ReadFrom text rest

/-- Pieces are right one after another, the first of them at a position. -/
def Laid (position : Nat) : List Piece → Prop
  | [] => True
  | piece :: rest =>
    piece.Fits position (rest.flatMap text) ∧ Laid (position + piece.text.length) rest

def tokens (position : Nat) (pieces : List Piece) : List Token :=
  pieces.filterMap token? ++ [Token.finish (position + (pieces.flatMap text).length)]

end Piece

/-! ## One lexeme -/

variable {s rest : Text} {c : CodePoint} {used : Nat}

theorem length_le_takeWhile {inside : CodePoint → Bool} {run : Text}
    (all : ∀ c ∈ run, inside c = true) (starts : run <+: s) :
    run.length ≤ (s.takeWhile inside).length := by
  obtain ⟨rest, rfl⟩ := starts
  rw [takeWhile_append_of_pos all, length_append]
  exact Nat.le_add_right _ _

theorem longest_word (start : startsWord c = true) :
    Longest IsWord (c :: rest.takeWhile continuesWord) (rest.dropWhile continuesWord) := by
  refine ⟨⟨c, _, rfl, start, all_eq_true.1 all_takeWhile⟩, ?_⟩
  rintro _ ⟨d, run, rfl, -, all⟩ starts
  rw [cons_append, takeWhile_append_dropWhile, cons_prefix_cons] at starts
  exact Nat.succ_le_succ (length_le_takeWhile all starts.2)

theorem longest_symbol {symbol : Symbol} (leads : Symbol.leading? s = some symbol) :
    ∃ rest, s = symbol.text ++ rest ∧ Longest IsSymbol symbol.text rest := by
  obtain ⟨starts, before, after, split, none⟩ := find?_eq_some_iff_append.1 leads
  obtain ⟨rest, rfl⟩ := isPrefixOf_iff_prefix.1 starts
  refine ⟨rest, rfl, ⟨symbol, rfl⟩, ?_⟩
  rintro _ ⟨other, rfl⟩ found
  have sorted : Symbol.all.Pairwise fun early late => late.text.length ≤ early.text.length := by
    decide
  have listed : other ∈ before ++ symbol :: after := by
    rw [← split]
    cases other <;> decide
  rw [split, pairwise_append, pairwise_cons] at sorted
  rcases mem_append.1 listed with earlier | later
  · have tried := none other earlier
    rw [Text.startsWith, isPrefixOf_iff_prefix.2 found] at tried
    cases tried
  · rcases mem_cons.1 later with rfl | later
    · exact Nat.le_refl _
    · exact sorted.2.1.1 other later

theorem symbol_text_ne_nil (symbol : Symbol) : symbol.text ≠ [] := by
  cases symbol <;> decide

theorem fractionDigits_eq (some : fractionDigits s ≠ []) :
    ∃ rest, s = ('.' : CodePoint) :: (fractionDigits s ++ rest) := by
  unfold fractionDigits at some ⊢
  split at some
  · split at some
    · next point rest isPoint =>
        refine ⟨rest.dropWhile CodePoint.isDigit, ?_⟩
        rw [isPoint, if_pos rfl, takeWhile_append_dropWhile]
    · cases some rfl
  · cases some rfl

/-- Whatever stands for a code point is as wide as what it adds to the count. -/
theorem used_le_add {later : Except Fault (Text × Nat)} {point : CodePoint} {length : Nat}
    {value : Text} (width : Nat) (short : ∀ {value used}, later = .ok (value, used) → used ≤ length)
    (read : (do let (value, used) ← later; return (point :: value, used + width)) =
      .ok (value, used)) : used ≤ length + width := by
  obtain ⟨⟨_, used⟩, later, same⟩ := Except.bind_eq_ok.1 read
  cases same
  exact Nat.add_le_add_right (short later) width

theorem used_le_length {quote : CodePoint} {start column : Nat} {value : Text}
    (read : readQuoted quote start column s = .ok (value, used)) : used ≤ s.length := by
  fun_induction readQuoted quote start column s generalizing value used with
  | case1 => cases read
  | case2 => cases read; exact Nat.le_add_left _ _
  | case3 => cases read
  | case4 _ _ _ _ _ _ _ _ _ ih => exact used_le_add 6 ih read
  | case5 => cases read
  | case6 => cases read
  | case7 _ _ _ _ _ _ _ ih => exact used_le_add 2 ih read
  | case8 => cases read
  | case9 _ _ _ _ _ ih => exact used_le_add 1 ih read

/-- **One token.**  The code point and those that are used after it are the lexeme. -/
theorem exists_lexeme {position : Nat} {token : Token}
    (read : readToken position c rest = .ok (token, used)) :
    ∃ tail after, rest = tail ++ after ∧ used = tail.length ∧ token.position = position ∧
      token.ReadFrom (c :: tail) after := by
  simp only [readToken] at read
  split at read
  · split at read
    · next value used quoted =>
      cases read
      have within := used_le_length quoted
      exact ⟨rest.take used, rest.drop used, (take_append_drop _ _).symm, by simp [within],
        rfl, rfl⟩
    · cases read
  split at read
  · split at read
    · split at read
      · cases read
        exact ⟨_, _, takeWhile_append_dropWhile.symm, by simp, rfl, rfl⟩
      · cases read
    · next fraction =>
      split at read
      · cases read
        obtain ⟨after, split⟩ := fractionDigits_eq (by simpa using fraction)
        refine ⟨_ ++ ('.' : CodePoint) :: fractionDigits (rest.dropWhile CodePoint.isDigit),
          after, ?_, ?_,
          rfl, rfl⟩
        · rw [append_assoc, cons_append, ← split, takeWhile_append_dropWhile]
        · simp
          omega
      · cases read
  split at read
  · next start =>
    have longest := @longest_word rest c start
    split at read
    · next symbol spells =>
      cases read
      exact ⟨_, _, takeWhile_append_dropWhile.symm, by simp, rfl, rfl, .inr ⟨spells, longest⟩⟩
    · next none =>
      cases read
      exact ⟨_, _, takeWhile_append_dropWhile.symm, by simp, rfl, rfl, none, longest⟩
  · split at read
    · next symbol leads =>
      cases read
      obtain ⟨after, whole, longest⟩ := longest_symbol leads
      obtain ⟨first, tail, spelled⟩ := exists_cons_of_ne_nil (symbol_text_ne_nil symbol)
      rw [spelled, cons_append] at whole
      obtain ⟨rfl, rfl⟩ := cons.inj whole
      exact ⟨tail, after, rfl, by simp [spelled], rfl, rfl, .inl ⟨spelled.symm, spelled ▸ longest⟩⟩
    · cases read

/-! ## All pieces -/

namespace Piece

theorem tokens_cons (position : Nat) (piece : Piece) (pieces : List Piece) :
    tokens position (piece :: pieces) =
      piece.token?.toList ++ tokens (position + piece.text.length) pieces := by
  cases piece <;> simp [tokens, filterMap_cons, token?, Nat.add_assoc]

/-- **A whole text.**  From any position, the tokens that are read are those of pieces of the text.
-/
theorem exists_pieces {position : Nat} {source : Text} {found : List Token}
    (lexed : tokensFrom position source = .ok found) :
    ∃ pieces, source = pieces.flatMap text ∧ found = tokens position pieces ∧
      Laid position pieces := by
  fun_induction tokensFrom position source generalizing found with
  | case1 position => cases lexed; exact ⟨[], rfl, rfl, trivial⟩
  | case2 position c rest isBlank ih =>
    obtain ⟨pieces, rfl, rfl, laid⟩ := ih lexed
    exact ⟨blank c :: pieces, rfl, (tokens_cons _ (blank c) _).symm, isBlank, laid⟩
  | case3 => cases lexed
  | case4 => cases lexed
  | case5 position c rest _ token used read later found ih =>
    cases lexed
    obtain ⟨tail, after, rfl, rfl, stands, readFrom⟩ := exists_lexeme read
    rw [drop_left, Nat.add_right_comm, Nat.add_assoc] at found ih
    obtain ⟨pieces, rfl, rfl, laid⟩ := ih found
    have first := tokens_cons position (lexeme (c :: tail) token) pieces
    exact ⟨lexeme (c :: tail) token :: pieces, rfl, first.symm, ⟨nofun, stands, readFrom⟩, laid⟩

theorem Laid.increasing {position : Nat} {pieces : List Piece} (laid : Laid position pieces) :
    (∀ token ∈ tokens position pieces, position ≤ token.position) ∧
      (tokens position pieces).Pairwise fun early late => early.position < late.position := by
  induction pieces generalizing position with
  | nil => exact ⟨by simp [tokens, Token.finish], pairwise_singleton _ _⟩
  | cons piece rest ih =>
    obtain ⟨fits, laid⟩ := laid
    obtain ⟨later, increasing⟩ := ih laid
    rw [tokens_cons]
    have beyond : ∀ token ∈ tokens (position + piece.text.length) rest,
        position ≤ token.position :=
      fun token listed => Nat.le_of_add_right_le (later token listed)
    cases piece with
    | blank point => exact ⟨beyond, increasing⟩
    | lexeme text token =>
      obtain ⟨some, rfl, -⟩ := fits
      refine ⟨forall_mem_cons.2 ⟨Nat.le_refl _, beyond⟩, pairwise_cons.2 ⟨?_, increasing⟩⟩
      intro other listed
      exact Nat.lt_of_lt_of_le (Nat.lt_add_of_pos_right (length_pos_iff.2 some))
        (later other listed)

end Piece

/-- **Tokens lose nothing.**  The text of an expression that has tokens is cut into white space and
one lexeme for each token but the last, in their order.  A token stands where its lexeme starts, so
that positions increase, and the last token stands at the end of the text.  A token has its lexeme
as its text, or is the symbol that the lexeme spells as a word; a word and a symbol are the longest
at their position. -/
theorem exists_pieces_of_tokenize {source : Text} {tokens : List Token}
    (lexed : tokenize source = .ok tokens) :
    ∃ pieces : List Piece, source = pieces.flatMap Piece.text ∧
      tokens = pieces.filterMap Piece.token? ++ [Token.finish source.length] ∧
      Piece.Laid 0 pieces ∧
      tokens.Pairwise fun early late => early.position < late.position := by
  obtain ⟨pieces, rfl, rfl, laid⟩ := Piece.exists_pieces lexed
  refine ⟨pieces, rfl, ?_, laid, laid.increasing.2⟩
  rw [Piece.tokens, Nat.zero_add]

/-- A word that goes on beyond one that spells a symbol, symbols of one and of two characters, and
white space at both ends. -/
theorem exists_pieces_of_notable :
    ∃ tokens, tokenize " notable<=not\t1.5 " = .ok tokens ∧
      tokens.map Token.text = (["notable", "<=", "!", "1.5", ""] : List Text) ∧
      ∃ pieces : List Piece, " notable<=not\t1.5 " = pieces.flatMap Piece.text ∧
        tokens = pieces.filterMap Piece.token? ++ [Token.finish 18] ∧ Piece.Laid 0 pieces ∧
        tokens.Pairwise fun early late => early.position < late.position := by
  have read : ((tokenize " notable<=not\t1.5 ").map (·.map Token.text)).toOption =
      some (["notable", "<=", "!", "1.5", ""] : List Text) := by decide +kernel
  cases lexed : tokenize " notable<=not\t1.5 " with
  | error failure => rw [lexed] at read; cases read
  | ok tokens =>
    rw [lexed] at read
    exact ⟨tokens, rfl, Option.some.inj read, exists_pieces_of_tokenize lexed⟩

end AgentFlow.Expr
