import AgentFlow.Proofs.Expr.Taking

/-!
# The parser accepts exactly the grammar

What a reader takes is a stretch that derives its tree, and it takes every stretch that derives a
tree, as long as the token after it could not go on with that tree.  So the parser returns a tree
exactly for the tokens that derive it.
-/

namespace AgentFlow.Expr.Grammar

open List

variable {tokens rest span : List Token} {token : Token} {tree : Expr} {level : Level}
  {stratum : Stratum} {symbol : Symbol} {loose position : Nat} {spans : List (List Token)}

/-! ## What derives is read

A reader goes on as far as it can, so a stretch is read whole when the next token cannot go on with
its tree.  A token can go on with trees up to some looseness: an opening parenthesis with a word
only, an operator of a level with everything tighter than the level. -/

/-- The looseness from which on a token cannot go on with a tree. -/
def reach (token : Token) : Nat :=
  match Operator.ofToken? token with
  | some operator => operator.level.rank + 2
  | none =>
    match token.kind with
    | .symbol .openParen => 0
    | .symbol .dot => 1
    | .symbol .openBracket => 1
    | _ => 7

/-- The next token cannot go on with a tree of a looseness. -/
def Stops (loose : Nat) (rest : List Token) : Prop := ∀ token ∈ rest.head?, loose ≤ reach token

theorem stops_cons : Stops loose (token :: rest) ↔ loose ≤ reach token := by
  simp [Stops]

theorem Stops.mono {tight : Nat} (stops : Stops loose rest) (tighter : tight ≤ loose) :
    Stops tight rest :=
  fun token head => Nat.le_trans tighter (stops token head)

theorem reach_of_spells {operator : Operator} (spells : Spells token operator.text) :
    reach token = operator.level.rank + 2 := by
  rw [reach, spells_iff.1 spells]

theorem readChain_of_stops (tree : Expr) (stops : Stops (level.rank + 3) rest) :
    readChain level tree rest = .ok (tree, rest) := by
  refine readChain_stop tree fun token head => ?_
  cases joins : level.operator? token with
  | none => rfl
  | some combine =>
    obtain ⟨operator, rfl, spells, -⟩ := operator?_eq_some joins
    have far := stops token head
    rw [reach_of_spells spells] at far
    omega

theorem readAccess_of_stops (tree : Expr) (stops : Stops 2 rest) :
    readAccess tree rest = .ok (tree, rest) := by
  refine readAccess_stop tree fun token head => ?_
  have far := stops token head
  constructor
  · cases isDot : token.isSymbol .dot with
    | false => rfl
    | true => simp [reach, isSymbol_iff.1 isDot] at far
  · cases opens : token.isSymbol .openBracket with
    | false => rfl
    | true => simp [reach, isSymbol_iff.1 opens] at far

/-! ### First tokens -/

theorem sign_none_of_primes (primes : Primes token) : Sign.ofToken? token = none := by
  cases isSign : Sign.ofToken? token with
  | none => rfl
  | some sign =>
    simp only [Sign.ofToken?] at isSign
    split at isSign <;> rename_i kind <;> simp_all [Primes]

theorem not_closing_of_starts (starts : Starts (.level .or) token)
    (closing : symbol = .closeParen ∨ symbol = .closeBracket) : ¬token.isSymbol symbol = true := by
  intro isSymbol
  have kind := isSymbol_iff.1 isSymbol
  rcases starts with primes | ⟨sign, isSign⟩
  · rcases closing with rfl | rfl <;> simp [Primes, kind] at primes
  · rcases closing with rfl | rfl <;> simp [Sign.ofToken?, kind] at isSign

/-! ### Stretches that are read whole -/

/-- The reader of a stratum reads a stretch as a tree.  At a level and at accesses it has then still
to go on with the tree, because more of the same stratum may follow. -/
def ReadsWhole : Stratum → List Token → Expr → Prop
  | .level level, span, tree => ∀ rest, Stops (level.rank + 2) rest →
      readLevel level (span ++ rest) = readChain level tree rest
  | .unary, span, tree => ∀ rest, Stops 2 rest → readUnary (span ++ rest) = .ok (tree, rest)
  | .accessed, span, tree => ∀ rest, Stops 1 rest →
      readAccessed (span ++ rest) = readAccess tree rest
  | .primary, span, tree => ∀ rest, Stops 1 rest → readPrimary (span ++ rest) = .ok (tree, rest)

section Whole

theorem readOperand_whole (whole : ReadsWhole (operand level) span tree)
    (stops : Stops (level.rank + 2) rest) :
    readOperand level (span ++ rest) = .ok (tree, rest) := by
  rw [readOperand_eq]
  cases level with
  | mul => exact whole rest stops
  | or | and | compare | add =>
    refine (whole rest (stops.mono ?_)).trans (readChain_of_stops tree stops)
    decide

/-- Inside brackets, a whole expression ends at any token that goes on with nothing. -/
theorem readLevel_inside (whole : ReadsWhole (.level .or) span tree)
    (far : reach token = 7) :
    readLevel .or (span ++ token :: rest) = .ok (tree, token :: rest) := by
  have stops : Stops 7 (token :: rest) := stops_cons.2 (Nat.le_of_eq far.symm)
  exact (whole _ (stops.mono (by decide))).trans (readChain_of_stops tree stops)

variable {symbol : Symbol} {α : Type}

theorem readSymbol_of_kind (kind : token.kind = .symbol symbol) :
    readSymbol symbol (token :: rest) = .ok ((), rest) := by
  rw [readSymbol_cons, if_pos (isSymbol_iff.2 kind)]

theorem afterItem_comma {closing : Symbol} {comma : Token}
    {again : List Token → Except Fault (List α × List Token)} {more : List α} {later : List Token}
    (item : α) (isComma : comma.kind = .symbol .comma) (read : again later = .ok (more, rest)) :
    afterItem closing again item (comma :: later) = .ok (item :: more, rest) := by
  simp [afterItem, isSymbol_iff.2 isComma, read, bind, Except.bind]

theorem afterItem_close {closing : Symbol} {again : List Token → Except Fault (List α × List Token)}
    (item : α) (closes : token.kind = .symbol closing) (notComma : closing ≠ .comma) :
    afterItem closing again item (token :: rest) = .ok ([item], rest) := by
  have other : token.isSymbol .comma = false := by simp [Token.isSymbol, closes, notComma]
  simp [afterItem, other, readSymbol_of_kind closes, bind, Except.bind]

variable {closing : Token} {parts : List (List Token × Expr)} {inner : List Token}

theorem readMoreArguments_separated (some : parts ≠ [])
    (separated : Separated (parts.map Prod.fst) inner)
    (each : ∀ part ∈ parts, ReadsWhole (.level .or) part.1 part.2)
    (closes : closing.kind = .symbol .closeParen) :
    readMoreArguments (inner ++ closing :: rest) = .ok (parts.map Prod.snd, rest) := by
  induction parts generalizing inner with
  | nil => exact absurd rfl some
  | cons part parts ih =>
    obtain ⟨span, tree⟩ := part
    obtain ⟨whole, each⟩ := forall_mem_cons.1 each
    rw [readMoreArguments_eq]
    cases parts with
    | nil =>
      cases separated with
      | one =>
        rw [readLevel_inside whole (by simp [reach, closes])]
        exact afterItem_close tree closes (by decide)
    | cons next parts =>
      cases separated with
      | @more _ _ tokens _ comma isComma later =>
        rw [append_assoc, cons_append, readLevel_inside whole (by simp [reach, isComma])]
        exact afterItem_comma tree isComma (ih (by simp) later each)

theorem readArguments_separated (separated : Separated (parts.map Prod.fst) inner)
    (derived : ∀ part ∈ parts, Derives (.level .or) part.1 part.2)
    (each : ∀ part ∈ parts, ReadsWhole (.level .or) part.1 part.2)
    (closes : closing.kind = .symbol .closeParen) :
    readArguments (inner ++ closing :: rest) = .ok (parts.map Prod.snd, rest) := by
  cases parts with
  | nil =>
    cases separated
    rw [nil_append, readArguments_cons, if_pos (isSymbol_iff.2 closes)]
    rfl
  | cons part parts =>
    have read := @readMoreArguments_separated rest closing _ inner (by simp) separated each closes
    obtain ⟨token, more, first, starts⟩ := starts_of_derives (derived part (by simp))
    obtain ⟨later, rfl⟩ : ∃ later, inner = token :: later := by
      rw [map_cons, first] at separated
      generalize parts.map Prod.fst = spans at separated
      cases separated with
      | one => exact ⟨_, rfl⟩
      | more => exact ⟨_, rfl⟩
    rw [cons_append, readArguments_cons, if_neg (not_closing_of_starts starts (.inl rfl))]
    exact read

/-- A reader of a sequence reads parts with commas after them, when it reads each of them up to a
token that goes on with nothing. -/
theorem read_trailed {ι : Type} (items : Items ι α) {parts : List ι}
    {read : List Token → Except Fault (List α × List Token)} (notComma : symbol ≠ .comma)
    (far : reach closing = 7) (closes : closing.kind = .symbol symbol)
    (done : ∀ rest, read (closing :: rest) = .ok ([], rest))
    (step : ∀ part ∈ parts, ∀ next later, reach next = 7 →
      read (items.span part ++ next :: later) =
        afterItem symbol read (items.value part) (next :: later))
    (trailed : Trailed (parts.map items.span) inner) :
    read (inner ++ closing :: rest) = .ok (parts.map items.value, rest) := by
  induction parts generalizing inner with
  | nil =>
    cases trailed
    exact done rest
  | cons part parts ih =>
    obtain ⟨first, others⟩ := forall_mem_cons.1 step
    generalize same : (part :: parts).map items.span = spans at trailed
    cases trailed with
    | none => cases same
    | last =>
      cases parts with
      | cons => cases same
      | nil =>
        cases same
        exact (first closing rest far).trans (afterItem_close _ closes notComma)
    | more isComma later =>
      cases same
      rw [append_assoc, cons_append]
      exact (first _ _ (by simp [reach, isComma])).trans
        (afterItem_comma _ isComma (ih others later))

theorem readItems_trailed (trailed : Trailed (parts.map Prod.fst) inner)
    (derived : ∀ part ∈ parts, Derives (.level .or) part.1 part.2)
    (each : ∀ part ∈ parts, ReadsWhole (.level .or) part.1 part.2)
    (closes : closing.kind = .symbol .closeBracket) :
    readItems (inner ++ closing :: rest) = .ok (parts.map Prod.snd, rest) := by
  refine read_trailed expressions (by decide) (by simp [reach, closes]) closes
    (fun rest => ?_) (fun part listed next later far => ?_) trailed
  · rw [readItems_cons, if_pos (isSymbol_iff.2 closes)]
  · obtain ⟨token, more, first, starts⟩ := starts_of_derives (derived part listed)
    have read := @readLevel_inside later _ next _ (each part listed) far
    show readItems (part.1 ++ next :: later) = _
    rw [first] at read ⊢
    rw [cons_append, readItems_cons, if_neg (not_closing_of_starts starts (.inr rfl)),
      ← cons_append, read]
    rfl

theorem objectKey?_of_names {name : Text} (names : Names token name) :
    objectKey? token = some name ∧ ¬token.isSymbol .closeBrace = true ∧ ¬name.isEmpty = true := by
  refine ⟨?_, ?_, fun empty => names.notEmpty (List.isEmpty_iff.1 empty)⟩
  · rcases names.spelled with ⟨kind, text⟩ | kind
    · simp [objectKey?, kind, text]
    · simp [objectKey?, kind]
  · rcases names.spelled with ⟨kind, -⟩ | kind <;> simp [Token.isSymbol, kind]

theorem readEntries_trailed {entries : List Entry}
    (trailed : Trailed (entries.map Entry.tokens) inner)
    (marked : ∀ entry ∈ entries, entry.Marked)
    (each : ∀ entry ∈ entries, ReadsWhole (.level .or) entry.span entry.value)
    (closes : closing.kind = .symbol .closeBrace) :
    readEntries (inner ++ closing :: rest) = .ok (entries.map Entry.pair, rest) := by
  refine read_trailed pairs (by decide) (by simp [reach, closes]) closes
    (fun rest => ?_) (fun entry listed next later far => ?_) trailed
  · rw [readEntries_cons, if_pos (isSymbol_iff.2 closes)]
  · obtain ⟨names, isColon⟩ := marked entry listed
    obtain ⟨isKey, notClosing, notEmpty⟩ := objectKey?_of_names names
    show readEntries (entry.key :: entry.colon :: (entry.span ++ next :: later)) = _
    rw [readEntries_cons, if_neg notClosing, isKey]
    simp only [notEmpty, Bool.false_eq_true, if_false]
    rw [readSymbol_of_kind isColon]
    show (readLevel .or (entry.span ++ next :: later) >>= _) = _
    rw [readLevel_inside (each entry listed) far]
    rfl

end Whole

/-- **Every stretch that derives a tree is read whole.**  The induction follows the derivation. -/
theorem readsWhole_of_derives (derivation : Derives stratum span tree) :
    ReadsWhole stratum span tree := by
  induction derivation with
  | @operand level span tree only ih =>
    intro rest stops
    rw [readLevel_eq, readOperand_whole ih stops]
    rfl
  | @join operator before after token left right first spells last ihFirst ihLast =>
    intro rest stops
    have follows : Stops (operator.level.rank + 2) (token :: after ++ rest) :=
      stops_cons.2 (Nat.le_of_eq (reach_of_spells spells).symm)
    rw [append_assoc, ihFirst _ follows, cons_append,
      readChain_step left _ (operator?_of_spells spells), readOperand_whole ihLast stops]
    rfl
  | @signed sign token span tree spells inner ih =>
    intro rest stops
    rw [cons_append, readUnary_signed _ (sign_spells_iff.2 spells), ih rest stops]
    rfl
  | @unsigned span tree inner ih =>
    intro rest stops
    obtain ⟨token, more, rfl, primes⟩ := starts_of_derives inner
    rw [cons_append, readUnary_unsigned _ (sign_none_of_primes primes), ← cons_append,
      ih rest (stops.mono (by decide)), readAccess_of_stops tree stops]
  | @base span tree inner ih =>
    intro rest stops
    rw [readAccessed_eq, ih rest stops]
    rfl
  | @member span target dot field inner isDot isWord ih =>
    intro rest stops
    have follows : Stops 1 (dot :: field :: rest) := stops_cons.2 (by simp [reach, isDot])
    rw [append_assoc]
    refine (ih _ follows).trans ?_
    rw [readAccess_dot target _ (isSymbol_iff.2 isDot)]
    simp only [isWord, dite_true]
  | @index span inner target position opening closing before opens inside closes ih ihInside =>
    intro rest stops
    have follows : Stops 1 (opening :: (inner ++ closing :: rest)) :=
      stops_cons.2 (by simp [reach, opens])
    rw [append_assoc, append_assoc, cons_append]
    refine (ih _ follows).trans ?_
    rw [readAccess_open target _ (isSymbol_iff.2 opens)]
    show (readLevel .or (inner ++ closing :: rest) >>= _) = _
    rw [readLevel_inside ihInside (by simp [reach, closes])]
    show (readSymbol .closeBracket (closing :: rest) >>= _) = _
    rw [readSymbol_of_kind closes]
    rfl
  | integer kind | decimal kind | string kind =>
    intro rest stops
    simp [readPrimary_cons, kind]
  | keyword kind listed =>
    intro rest stops
    simp [readPrimary_cons, kind, keywordLiteral?_iff.2 listed]
  | @name token kind free =>
    intro rest stops
    simp only [singleton_append, readPrimary_cons, kind, keywordLiteral?_eq_none_iff.2 free]
    cases rest with
    | nil => rfl
    | cons next rest =>
      have notOpen : ¬next.isSymbol .openParen = true := by
        intro opens
        have far := stops_cons.1 stops
        simp [reach, isSymbol_iff.1 opens] at far
      simp only [notOpen, Bool.false_eq_true, if_false]
  | @call function opening closing inner parts kind free opens separated each closes ih =>
    intro rest stops
    simp only [cons_append, append_assoc, readPrimary_cons, kind,
      keywordLiteral?_eq_none_iff.2 free, isSymbol_iff.2 opens, if_true]
    rw [readArguments_separated separated each ih closes]
    rfl
  | @group opening closing inner tree opens inside closes ih =>
    intro rest stops
    simp only [cons_append, append_assoc, readPrimary_cons, opens]
    rw [readLevel_inside ih (by simp [reach, closes])]
    show (readSymbol .closeParen (closing :: rest) >>= _) = _
    rw [readSymbol_of_kind closes]
    rfl
  | @list opening closing inner parts opens trailed each closes ih =>
    intro rest stops
    simp only [cons_append, append_assoc, readPrimary_cons, opens]
    rw [readItems_trailed trailed each ih closes]
    rfl
  | @object opening closing inner entries opens trailed marked each closes ih =>
    intro rest stops
    simp only [cons_append, append_assoc, readPrimary_cons, opens]
    rw [readEntries_trailed trailed marked ih closes]
    rfl

/-! ## Whole expressions -/

theorem Separated.trailed (separated : Separated spans tokens) : Trailed spans tokens := by
  induction separated with
  | none => exact .none
  | one => exact .last
  | more isComma later ih => exact .more isComma ih

theorem not_finish_of_trailed (trailed : Trailed spans tokens)
    (each : ∀ span ∈ spans, ∀ token ∈ span, token.kind ≠ .finish) :
    ∀ token ∈ tokens, token.kind ≠ .finish := by
  induction trailed with
  | none => simp
  | last => exact each _ (by simp)
  | @more span tokens spans comma isComma later ih =>
    obtain ⟨first, others⟩ := forall_mem_cons.1 each
    have proper : comma.kind ≠ .finish := by simp [isComma]
    exact forall_mem_append.2 ⟨first, forall_mem_cons.2 ⟨proper, ih others⟩⟩

/-- A stretch that derives a tree does not reach beyond the end. -/
theorem not_finish_of_derives (derivation : Derives stratum span tree) :
    ∀ token ∈ span, token.kind ≠ .finish := by
  induction derivation with
  | operand only ih => exact ih
  | join first spells last ihFirst ihLast =>
    simpa [or_imp, forall_and] using ⟨ihFirst, not_finish_of_spells spells, ihLast⟩
  | signed spells inner ih => simpa using ⟨not_finish_of_spells spells, ih⟩
  | unsigned inner ih => exact ih
  | base inner ih => exact ih
  | member inner isDot isWord ih =>
    simpa [or_imp, forall_and, isDot, isWord] using ih
  | index before opens inside closes ih ihInside =>
    simpa [or_imp, forall_and, opens, closes] using ⟨ih, ihInside⟩
  | integer kind | decimal kind | string kind | keyword kind | name kind => simp [kind]
  | call kind free opens separated each closes ih =>
    have inside := not_finish_of_trailed separated.trailed (by simpa using ih)
    simpa [or_imp, forall_and, kind, opens, closes] using inside
  | group opens inside closes ih => simpa [or_imp, forall_and, opens, closes] using ih
  | list opens trailed each closes ih =>
    have inside := not_finish_of_trailed trailed (by simpa using ih)
    simpa [or_imp, forall_and, opens, closes] using inside
  | @object opening closing inner entries opens trailed marked each closes ih =>
    have entered : ∀ entry ∈ entries, ∀ token ∈ entry.tokens, token.kind ≠ .finish := by
      intro entry listed
      have key : entry.key.kind ≠ .finish := by
        rcases (marked entry listed).names.spelled with ⟨kind, -⟩ | kind <;> simp [kind]
      have colon : entry.colon.kind ≠ .finish := by simp [(marked entry listed).isColon]
      exact forall_mem_cons.2 ⟨key, forall_mem_cons.2 ⟨colon, ih entry listed⟩⟩
    have inside := not_finish_of_trailed trailed (by simpa using entered)
    simpa [or_imp, forall_and, opens, closes] using inside

theorem not_finish_of_readToken {used : Nat} {c : CodePoint} {rest : Text}
    (read : readToken position c rest = .ok (token, used)) : token.kind ≠ .finish := by
  simp only [readToken] at read
  split at read
  · split at read <;> cases read; simp
  · split at read
    · split at read <;> split at read <;> cases read <;> simp
    · split at read
      · split at read <;> cases read <;> simp
      · split at read <;> cases read; simp

/-- Tokens end with the one that says so, and no other does. -/
theorem exists_finish {source : Text} (lexed : tokensFrom position source = .ok tokens) :
    ∃ span finish, tokens = span ++ [finish] ∧ finish.kind = .finish ∧
      ∀ token ∈ span, token.kind ≠ .finish := by
  fun_induction tokensFrom position source generalizing tokens with
  | case1 position => cases lexed; exact ⟨[], _, rfl, rfl, by simp⟩
  | case2 position c rest blank ih => exact ih lexed
  | case3 => cases lexed
  | case4 => cases lexed
  | case5 position c rest blank token used read later found ih =>
    cases lexed
    obtain ⟨span, finish, rfl, isFinish, none⟩ := ih found
    exact ⟨token :: span, finish, rfl, isFinish,
      forall_mem_cons.2 ⟨not_finish_of_readToken read, none⟩⟩

/-- Tokens that end as those of a text do are accepted exactly when they derive a tree. -/
theorem parseTokens_eq_ok_iff {finish : Token} (whole : tokens = span ++ [finish])
    (isFinish : finish.kind = .finish)
    (proper : ∀ token ∈ span, token.kind ≠ .finish) :
    parseTokens tokens = .ok tree ↔ Sentence tokens tree := by
  constructor
  · intro done
    rw [whole, parseTokens_eq] at done
    split at done
    · cases done
    · cases (sound isFinish span).level .or with
      | fails what listed same =>
        rw [same] at done
        cases done
      | @takes first rest value parts derivation same =>
        rw [same] at done
        cases rest with
        | nil =>
          have ended : (peek ([] ++ [finish])).kind = .finish := isFinish
          simp only [bind, Except.bind, if_pos ended] at done
          cases done
          exact ⟨first, finish, by rw [whole, parts, append_nil], isFinish, derivation⟩
        | cons token rest =>
          have inner : (peek (token :: rest ++ [finish])).kind ≠ .finish :=
            proper token (by simp [parts])
          simp only [bind, Except.bind, if_neg inner] at done
          cases done
  · rintro ⟨derived, last, split, isLast, derivation⟩
    obtain ⟨token, more, rfl, -⟩ := starts_of_derives derivation
    have inner : (peek (token :: more ++ [last])).kind ≠ .finish :=
      not_finish_of_derives derivation token mem_cons_self
    rw [split, parseTokens_eq, if_neg inner, readLevel_inside
      (readsWhole_of_derives derivation) (by simp [reach, isLast])]
    exact if_pos isLast

/-- **The parser accepts exactly the grammar.**  For the tokens of any text, it returns a tree if
and only if they derive it, and they derive at most one. -/
theorem parse_eq_ok_iff_sentence {source : Text} {tokens : List Token}
    (lexed : tokenize source = .ok tokens) :
    (∀ tree, parse source = .ok tree ↔ Sentence tokens tree) ∧
      ∀ tree other, Sentence tokens tree → Sentence tokens other → tree = other := by
  obtain ⟨span, finish, whole, isFinish, none⟩ := exists_finish lexed
  have accepts : ∀ tree, parseTokens tokens = .ok tree ↔ Sentence tokens tree :=
    fun tree => parseTokens_eq_ok_iff whole isFinish none
  refine ⟨fun tree => ?_, fun tree other first second => ?_⟩
  · rw [← accepts]
    simp only [parse, lexed, bind, Except.bind]
    cases parseTokens tokens <;> simp [pure, Except.pure]
  · have same := ((accepts tree).2 first).symm.trans ((accepts other).2 second)
    exact Except.ok.inj same

theorem Derives.atLevel (derivation : Derives .primary span tree) (level : Level) :
    Derives (.level level) span tree := by
  have mul : Derives (.level .mul) span tree := .operand (.unsigned (.base derivation))
  have add : Derives (.level .add) span tree := .operand mul
  have compare : Derives (.level .compare) span tree := .operand add
  have and : Derives (.level .and) span tree := .operand compare
  cases level with
  | or => exact .operand and
  | and => exact and
  | compare => exact compare
  | add => exact add
  | mul => exact mul

/-- The tokens of `in in [in,]`, where one word is a name, an operator and again a name. -/
def membership : List Token :=
  [⟨.word, "in", 0, by decide⟩, ⟨.word, "in", 3, by decide⟩, ⟨.symbol .openBracket, "[", 6, nofun⟩,
    ⟨.word, "in", 7, by decide⟩, ⟨.symbol .comma, ",", 9, nofun⟩,
    ⟨.symbol .closeBracket, "]", 10, nofun⟩, Token.finish 11]

/-- The word is read as each of the three, and in no other way. -/
theorem parse_membership :
    tokenize "in in [in,]" = .ok membership ∧
      parse "in in [in,]" = .ok (.compare .member (.name "in") (.list [.name "in"])) ∧
      ∀ other, Sentence membership other →
        other = .compare .member (.name "in") (.list [.name "in"]) := by
  have lexed : tokenize "in in [in,]" = .ok membership := by
    have same : (tokenize "in in [in,]").toOption = some membership := by decide +kernel
    cases read : tokenize "in in [in,]" with
    | error failure => rw [read] at same; cases same
    | ok tokens => rw [read] at same; cases same; rfl
  have read : parse "in in [in,]" =
      .ok (.compare .member (.name "in") (.list [.name "in"])) := by
    rw [parse, lexed]
    with_unfolding_all rfl
  obtain ⟨accepts, unique⟩ := parse_eq_ok_iff_sentence lexed
  exact ⟨lexed, read, fun other derives => unique _ _ derives ((accepts _).1 read)⟩

end AgentFlow.Expr.Grammar
