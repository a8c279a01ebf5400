import AgentFlow.Proofs.Target.Reading
import Mathlib.Data.List.Forall2

/-!
# Phrases of the generated language

How expressions are put together from tokens: atoms and what stands in brackets, accesses and calls
after a primary expression, and operators with operands of the bindings that the grammar asks for.
Each result says at which binding a phrase holds together and what it is read as.
-/

namespace AgentFlow.Target

open List
open AgentFlow.Expr (Binding)
open Option (bind_eq_bind bind_some map_eq_bind)

variable {tokens others rest : List Token} {token : Token} {value second : Code} {fuel : Nat}

/-! ## Atoms -/

theorem reads_token (starts : startsAtom token = true) (proper : ∀ inner, value ≠ .starred inner)
    (reads : ∀ fuel rest, grip rest < 9 →
      readAtom (fuel + 3) (token :: rest) = some (value, rest)) :
    Reads .atom [token] value := by
  refine ⟨⟨⟨token, [], rfl, starts⟩, by cases token <;> rfl⟩, proper,
    fun fuel rest enough loose => ?_⟩
  rw [length_singleton] at enough
  obtain ⟨fuel, rfl⟩ : ∃ less, fuel = less + 3 := ⟨fuel - 3, by omega⟩
  exact reads fuel rest loose

theorem reads_name (id : Text) : Reads .atom [.name id] (.name id) :=
  reads_token rfl nofun fun _ _ _ => by rw [readAtom]

theorem reads_number (value : Constant) : Reads .atom [.number value] (.constant value) :=
  reads_token rfl nofun fun _ _ _ => by rw [readAtom]

theorem reads_none : Reads .atom [.keyword "None"] (.constant .none) :=
  reads_token rfl nofun fun _ _ _ => by rw [readAtom]

theorem reads_bool (value : Bool) :
    Reads .atom [.keyword (if value then "True" else "False")] (.constant (.bool value)) := by
  cases value
  all_goals exact reads_token rfl nofun fun _ _ _ => by simp [readAtom]

theorem readStrings_stop (loose : grip rest < 9) :
    readStrings (fuel + 1) rest = some ([], rest) := by
  rw [readStrings.eq_def]
  dsimp only
  split
  · exact absurd loose (by simp [grip, Token.grip])
  · rfl

theorem reads_string {string : StringToken} {text : Text} (unformatted : string.format = false)
    (decoded : string.constant? = some (.str text)) :
    Reads .atom [.string string] (.constant (.str text)) := by
  refine reads_token rfl nofun fun fuel rest loose => ?_
  have read : readStrings (fuel + 2) (.string string :: rest) =
      some ([.inl (.str text)], rest) := by
    rw [readStrings.eq_def]
    simp [unformatted, decoded, readStrings_stop loose]
  rw [readAtom]
  simp [read, joinPieces]

theorem readParenthesised_single (read : Reads .or tokens value)
    (inner : readStarNamed fuel (tokens ++ .op ")" :: rest) = some (value, .op ")" :: rest)) :
    readParenthesised (fuel + 1) (tokens ++ .op ")" :: rest) = some (value, rest) := by
  rw [readParenthesised.eq_def]
  dsimp only
  split
  iterate 2 next equal => exact absurd equal (read.phrase.append_ne (by decide))
  · simp only [inner, bind_eq_bind, bind_some, atOp, atClause, expectOp]
    split
    · next starred => exact absurd starred (by decide)
    · split
      · exact absurd rfl (read.proper _)
      · rfl

theorem reads_enclosed (read : Reads .or tokens value) :
    Reads .atom (.op "(" :: (tokens ++ [.op ")"])) value := by
  refine ⟨⟨⟨_, _, rfl, rfl⟩, rfl⟩, read.proper, fun fuel rest enough loose => ?_⟩
  simp only [length_cons, length_append, length_nil] at enough
  obtain ⟨fuel, rfl⟩ : ∃ less, fuel = less + 2 := ⟨fuel - 2, by omega⟩
  have inner : readStarNamed fuel (tokens ++ .op ")" :: rest) = some (value, .op ")" :: rest) :=
    read.starNamed (by omega) Nat.zero_lt_one
  simp only [cons_append, append_assoc, nil_append]
  rw [readAtom]
  exact readParenthesised_single read inner

/-! ## Accesses and calls -/

def separated : List (List Token) → List Token
  | [] => []
  | [piece] => piece
  | piece :: next :: more => piece ++ .op "," :: separated (next :: more)

variable {pieces : List (List Token)} {values : List Code}

theorem readSlices_single (read : Reads .or tokens value)
    (enough : 24 * tokens.length + 23 ≤ fuel) :
    readSlices fuel (tokens ++ .op "]" :: rest) = some (value, .op "]" :: rest) := by
  obtain ⟨fuel, rfl⟩ : ∃ less, fuel = less + 2 := ⟨fuel - 2, by omega⟩
  have named : readNamed fuel (tokens ++ .op "]" :: rest) = some (value, .op "]" :: rest) :=
    read.named (by omega) Nat.zero_lt_one
  have slice :
      readSlice (fuel + 1) (tokens ++ .op "]" :: rest) = some (value, .op "]" :: rest) := by
    rw [readSlice.eq_def]
    dsimp only
    split
    iterate 2 next equal => exact absurd equal (read.phrase.append_ne (by decide))
    · exact named
    · simp [named]
  rw [readSlices.eq_def]
  simp only [slice, bind_eq_bind, bind_some, atOp, String.reduceEq, decide_false,
    Bool.false_eq_true, if_false]
  split
  · exact absurd rfl (read.proper _)
  · rfl

theorem reads_subscript (read : Reads .access tokens value) (index : Reads .or others second) :
    Reads .access (tokens ++ .op "[" :: (others ++ [.op "]"])) (.subscript value second) := by
  refine ⟨read.phrase.append rfl, nofun, GoesOn.step read.reads (by decide) ?_⟩
  intro fuel rest enough loose
  simp only [length_append, length_singleton, append_assoc, singleton_append] at enough ⊢
  have slices : readSlices fuel (others ++ .op "]" :: rest) = some (second, .op "]" :: rest) :=
    readSlices_single index (by omega)
  rw [readTrailers.eq_def]
  simp [slices, expectOp]

theorem reads_field (read : Reads .access tokens value) (field : Text) :
    Reads .access (tokens ++ [.op ".", .name field]) (.attr value field) := by
  refine ⟨read.phrase.append rfl, nofun, GoesOn.step read.reads (by decide) ?_⟩
  intro fuel rest enough loose
  rw [singleton_append, readTrailers.eq_def]
  rfl

/-- Tokens of a name and the value that is given to it in a call. -/
inductive ReadsKeyword : List Token → Keyword Code → Prop where
  | intro {id tokens value} (read : Reads .or tokens value) :
      ReadsKeyword (.name id :: .op "=" :: tokens) ⟨some id, value⟩

/-- What the reader of arguments makes of the tokens after an argument, given what it has read. -/
def argumentsAfter (fuel : Nat) (arguments : List Code) (keywords : List (Keyword Code))
    (afterKeyword : Bool) (tokens : List Token) :
    Option ((List Code × List (Keyword Code)) × List Token) :=
  match expectOp ")" tokens with
  | some rest => some ((arguments, keywords), rest)
  | none => do
    let rest ← expectOp "," tokens
    match expectOp ")" rest with
    | some rest => some ((arguments, keywords), rest)
    | none => do
      let ((moreArguments, moreKeywords), rest) ←
        readMoreArguments fuel false afterKeyword false rest
      some ((arguments ++ moreArguments, keywords ++ moreKeywords), rest)

theorem argumentsAfter_comma {arguments : List Code} {keywords : List (Keyword Code)}
    {afterKeyword : Bool} (more : expectOp ")" rest = none) :
    argumentsAfter fuel arguments keywords afterKeyword (.op "," :: rest) =
      (readMoreArguments fuel false afterKeyword false rest).map fun ((others, named), rest) =>
        ((arguments ++ others, keywords ++ named), rest) := by
  have open' : expectOp ")" (.op "," :: rest) = none := rfl
  have comma : expectOp "," (.op "," :: rest) = some rest := rfl
  simp only [argumentsAfter, open', comma, more, bind_eq_bind, bind_some, map_eq_bind]
  rfl

variable {first : Bool} {op : BinaryOp} {named : List (List Token)} {keywords : List (Keyword Code)}

theorem readMoreArguments_keyword {afterKeyword : Bool} {id : Text} (rest : List Token)
    (read : Reads .or tokens value) (enough : 24 * tokens.length + 20 ≤ fuel)
    (loose : grip rest < 1) :
    readMoreArguments (fuel + 1) first afterKeyword false
        (.name id :: .op "=" :: (tokens ++ rest)) =
      argumentsAfter fuel [] [⟨some id, value⟩] true rest := by
  rw [readMoreArguments.eq_def]
  simp only [read.expression enough loose, bind_eq_bind, bind_some]
  rfl

theorem readMoreArguments_positional (rest : List Token) (read : Reads .or tokens value)
    (enough : 24 * tokens.length + 21 ≤ fuel) (loose : grip rest < 1) :
    readMoreArguments (fuel + 1) first false false (tokens ++ rest) =
      argumentsAfter fuel [value] [] false rest := by
  have named : readNamed fuel (tokens ++ rest) = some (value, rest) := read.named enough loose
  rw [readMoreArguments.eq_def]
  dsimp only
  split
  iterate 2 next equal => exact absurd equal (read.phrase.append_ne (by decide))
  · next equal =>
      exact absurd equal (read.phrase.append_ne_binding (by omega) (by decide) (by decide) _ _)
  · simp only [Bool.false_eq_true, if_false, named, bind_eq_bind, bind_some,
      atClause_false (show grip rest < 9 by omega), Bool.and_false]
    rfl

theorem expectOp_separated {piece : List Token}
    (unclosed : ∀ left, expectOp ")" (piece ++ left) = none) :
    expectOp ")" (separated (piece :: pieces) ++ rest) = none := by
  cases pieces with
  | nil => exact unclosed rest
  | cons next more =>
    rw [separated, append_assoc]
    exact unclosed _

theorem unclosed_arguments (read : List.Forall₂ (Reads .or) pieces values)
    (readNamed : List.Forall₂ ReadsKeyword named keywords) (some : pieces ++ named ≠ [])
    (rest : List Token) : expectOp ")" (separated (pieces ++ named) ++ rest) = none := by
  cases read with
  | cons head _ => exact expectOp_separated fun _ => head.phrase.expectOp_none (by decide)
  | nil =>
    cases readNamed with
    | nil => exact absurd rfl some
    | cons head _ =>
      obtain ⟨_⟩ := head
      exact expectOp_separated fun _ => rfl

/-- Keyword arguments up to the parenthesis that closes a call. -/
theorem readMoreArguments_keywords {afterKeyword : Bool}
    (read : List.Forall₂ ReadsKeyword pieces keywords) (some : pieces ≠ [])
    (enough : 24 * (separated pieces).length + 23 ≤ fuel) :
    readMoreArguments fuel first afterKeyword false (separated pieces ++ .op ")" :: rest) =
      .some (([], keywords), rest) := by
  induction read generalizing fuel first afterKeyword with
  | nil => exact absurd rfl some
  | cons head tail ih =>
    rcases fuel with _ | fuel
    · omega
    obtain ⟨read⟩ := head
    cases tail with
    | nil =>
      simp only [separated, length_cons] at enough
      rw [separated]
      exact readMoreArguments_keyword (.op ")" :: rest) read (by omega) Nat.zero_lt_one
    | cons next others =>
      simp only [separated, length_append, length_cons] at enough
      have arguments := @ih fuel false true (by simp) (by omega)
      have unclosed (left : List Token) : expectOp ")" (separated (_ :: _) ++ left) = none :=
        unclosed_arguments .nil (.cons next others) (by simp) left
      rw [separated, append_assoc, cons_append, cons_append, cons_append,
        readMoreArguments_keyword (.op "," :: _) read (by omega) Nat.zero_lt_one,
        argumentsAfter_comma (unclosed _), arguments]
      rfl

/-- Arguments up to the parenthesis that closes a call, those with names after the others. -/
theorem readMoreArguments_separated (read : List.Forall₂ (Reads .or) pieces values)
    (readNamed : List.Forall₂ ReadsKeyword named keywords) (some : pieces ++ named ≠ [])
    (enough : 24 * (separated (pieces ++ named)).length + 23 ≤ fuel) :
    readMoreArguments fuel first false false (separated (pieces ++ named) ++ .op ")" :: rest) =
      .some ((values, keywords), rest) := by
  induction read generalizing fuel first with
  | nil => exact readMoreArguments_keywords readNamed some enough
  | @cons piece value pieces values head tail ih =>
    rcases fuel with _ | fuel
    · omega
    rw [cons_append] at enough ⊢
    cases further : pieces ++ named with
    | nil =>
      obtain ⟨rfl, rfl⟩ := append_eq_nil_iff.1 further
      cases tail
      cases readNamed
      simp only [append_nil, separated] at enough ⊢
      exact readMoreArguments_positional (.op ")" :: rest) head (by omega) Nat.zero_lt_one
    | cons next others =>
      rw [further] at ih enough
      simp only [separated, length_append, length_cons] at enough
      have arguments := @ih fuel false (by simp) (by omega)
      have unclosed := unclosed_arguments tail readNamed (by simp [further])
      rw [further] at unclosed
      rw [separated, append_assoc, cons_append,
        readMoreArguments_positional (.op "," :: _) head (by omega) Nat.zero_lt_one,
        argumentsAfter_comma (unclosed _), arguments]
      rfl

theorem readArguments_separated (read : List.Forall₂ (Reads .or) pieces values)
    (readNamed : List.Forall₂ ReadsKeyword named keywords)
    (enough : 24 * (separated (pieces ++ named)).length + 24 ≤ fuel) :
    readArguments fuel (separated (pieces ++ named) ++ .op ")" :: rest) =
      some ((values, keywords), rest) := by
  rcases fuel with _ | fuel
  · omega
  by_cases none : pieces ++ named = []
  · obtain ⟨rfl, rfl⟩ := append_eq_nil_iff.1 none
    cases read
    cases readNamed
    rfl
  · have arguments := @readMoreArguments_separated rest fuel _ _ true _ _ read readNamed none
      (by omega)
    rw [readArguments.eq_def]
    simp only [unclosed_arguments read readNamed none, arguments]

theorem reads_call (read : Reads .access tokens value)
    (arguments : List.Forall₂ (Reads .or) pieces values)
    (readNamed : List.Forall₂ ReadsKeyword named keywords) :
    Reads .access (tokens ++ .op "(" :: (separated (pieces ++ named) ++ [.op ")"]))
      (.call value values keywords) := by
  refine ⟨read.phrase.append rfl, nofun, GoesOn.step read.reads (by decide) ?_⟩
  intro fuel rest enough loose
  simp only [length_append, length_singleton, append_assoc, singleton_append] at enough ⊢
  have inner : readArguments fuel (separated (pieces ++ named) ++ .op ")" :: rest) =
      some ((values, keywords), rest) :=
    readArguments_separated arguments readNamed (by omega)
  rw [readTrailers.eq_def]
  simp [inner]

/-! ## Operators -/

theorem reads_sign {op : UnaryOp} (sign : factorOp? token = some op)
    (starts : startsFactor token = true) (read : Reads .unary tokens value) :
    Reads .unary (token :: tokens) (.unaryOp op value) := by
  refine ⟨⟨⟨_, _, rfl, starts⟩, ?_⟩, nofun, fun fuel rest enough loose => ?_⟩
  · cases token with
    | name id => cases sign
    | _ => rfl
  · rw [length_cons] at enough
    rcases fuel with _ | fuel
    · omega
    rw [cons_append, readFactor.eq_def]
    simp [sign, read.reads fuel rest (by omega) loose]

theorem reads_await (read : Reads .access tokens value) :
    Reads .unary (.keyword "await" :: tokens) (.await value) := by
  refine ⟨⟨⟨_, _, rfl, rfl⟩, rfl⟩, nofun, fun fuel rest enough loose => ?_⟩
  rw [length_cons] at enough
  obtain ⟨fuel, rfl⟩ : ∃ less, fuel = less + 2 := ⟨fuel - 2, by omega⟩
  have primary : readPrimary fuel (tokens ++ rest) = some (value, rest) :=
    read.primary (by omega) (by omega)
  rw [cons_append, readFactor.eq_def]
  simp only [factorOp?]
  rw [readPower.eq_def]
  simp only [primary, bind_eq_bind, bind_some]
  split
  · exact absurd loose (by simp [grip, Token.grip])
  · rfl

theorem reads_not (read : Reads .not tokens value) :
    Reads .not (.keyword "not" :: tokens) (.unaryOp .not value) := by
  refine ⟨⟨⟨_, _, rfl, rfl⟩, rfl⟩, nofun, fun fuel rest enough loose => ?_⟩
  rw [length_cons] at enough
  rcases fuel with _ | fuel
  · omega
  rw [cons_append, readInversion.eq_def]
  simp [read.reads fuel rest (by omega) loose]

theorem ChainsAt.step {level : ArithLevel} {extra limit : Nat}
    (chain : ChainsAt level extra limit tokens value) (operator : level.operator? token = some op)
    (grips : token.grip < limit)
    (operand : ∀ fuel rest, 24 * others.length + 6 ≤ fuel → grip rest < limit →
      readArithOperand fuel level (others ++ rest) = some (second, rest)) :
    ChainsAt level extra limit (tokens ++ token :: others) (.binOp op value second) := by
  refine GoesOn.step chain grips fun fuel rest enough loose => ?_
  rw [readArithChain.eq_def]
  simp [operator, operand fuel rest (by omega) loose]

theorem reads_term (operator : ArithLevel.term.operator? token = some op) (grips : token.grip = 6)
    (plain : bindsName token = false) (left : Reads .mul tokens value)
    (right : Reads .unary others second) :
    Reads .mul (tokens ++ token :: others) (.binOp op value second) := by
  refine ⟨left.phrase.append plain, nofun, ChainsAt.step left.reads operator (by omega) ?_⟩
  exact fun _ _ enough => right.factor (by omega)

theorem reads_sum (operator : ArithLevel.sum.operator? token = some op) (grips : token.grip = 5)
    (plain : bindsName token = false) (left : Reads .add tokens value)
    (right : Reads .mul others second) :
    Reads .add (tokens ++ token :: others) (.binOp op value second) := by
  refine ⟨left.phrase.append plain, nofun, ChainsAt.step left.reads operator (by omega) ?_⟩
  exact fun _ _ enough => right.term (by omega)

/-- A single comparison; a second one after it would join the chain. -/
theorem reads_compare {op : CompareOp}
    (compares : ∀ rest, comparison? (token :: rest) = some (op, rest))
    (grips : token.grip = 4) (plain : bindsName token = false) (left : Reads .add tokens value)
    (right : Reads .add others second) :
    Reads .compare (tokens ++ token :: others) (.compare value [(op, second)]) := by
  refine ⟨left.phrase.append plain, nofun, fun fuel rest enough loose => ?_⟩
  simp only [length_append, length_cons] at enough
  obtain ⟨fuel, rfl⟩ : ∃ less, fuel = less + 2 := ⟨fuel - 2, by omega⟩
  have first : readArith (fuel + 1) .bitOr (tokens ++ token :: (others ++ rest)) =
      some (value, token :: (others ++ rest)) := left.comparand (by omega) (by simp [grip, grips])
  have operand : readArith fuel .bitOr (others ++ rest) = some (second, rest) :=
    right.comparand (by omega) (by omega)
  have stop : readComparands fuel rest = some ([], rest) := readComparands_stop (by omega) loose
  have more :
      readComparands (fuel + 1) (token :: (others ++ rest)) = some ([(op, second)], rest) := by
    rw [readComparands.eq_def]
    simp [compares, operand, stop]
  rw [append_assoc, cons_append, readComparison.eq_def]
  simp [first, more]

namespace Gathers

variable {first : Code} {values : List Code}

theorem and_operand (gathered : Gathers .and tokens first values) (read : Reads .not others value) :
    Gathers .and (tokens ++ .keyword "and" :: others) first (values ++ [value]) := by
  refine ⟨gathered.phrase.append rfl, gathered.proper,
    GoesOn.step gathered.gathers (by decide) fun fuel rest enough loose => ?_⟩
  rw [readConjuncts.eq_def]
  simp only [read.reads fuel rest (by omega) loose, bind_eq_bind, bind_some]
  cases readConjuncts fuel rest <;> simp

theorem or_operand (gathered : Gathers .or tokens first values) (read : Reads .and others value) :
    Gathers .or (tokens ++ .keyword "or" :: others) first (values ++ [value]) := by
  refine ⟨gathered.phrase.append rfl, gathered.proper,
    GoesOn.step gathered.gathers (by decide) fun fuel rest enough loose => ?_⟩
  rw [readDisjuncts.eq_def]
  simp only [read.reads fuel rest (by omega) loose, bind_eq_bind, bind_some]
  cases readDisjuncts fuel rest <;> simp

end Gathers

/-! ## Lists -/

theorem readItems_separated (read : List.Forall₂ (Reads .or) pieces values) (some : pieces ≠ [])
    (enough : 24 * (separated pieces).length + 24 ≤ fuel) :
    readItems fuel "]" (separated pieces ++ .op "]" :: rest) = .some (values, rest) := by
  induction read generalizing fuel with
  | nil => exact absurd rfl some
  | @cons piece value pieces values head tail ih =>
    rcases fuel with _ | fuel
    · omega
    have other : starts .or (.op "]") = false := by decide
    cases tail with
    | nil =>
      rw [separated] at enough ⊢
      have item : readStarNamed fuel (piece ++ .op "]" :: rest) =
          .some (value, .op "]" :: rest) := head.starNamed (by omega) Nat.zero_lt_one
      rw [readItems.eq_def]
      simp only [head.phrase.expectOp_none other]
      simp [item, atOp, expectOp]
    | cons next others =>
      rw [separated] at enough ⊢
      simp only [length_append, length_cons] at enough
      have items := @ih fuel (by simp) (by omega)
      have item (left : List Token) : readStarNamed fuel (piece ++ .op "," :: left) =
          .some (value, .op "," :: left) := head.starNamed (by omega) Nat.zero_lt_one
      rw [append_assoc, cons_append, readItems.eq_def]
      simp [head.phrase.expectOp_none other, item, items, atOp]

theorem readBracketed_separated (read : List.Forall₂ (Reads .or) pieces values)
    (enough : 24 * (separated pieces).length + 24 ≤ fuel) :
    readBracketed fuel (separated pieces ++ .op "]" :: rest) = some (.list values, rest) := by
  rcases fuel with _ | fuel
  · omega
  rw [readBracketed.eq_def]
  cases read with
  | nil => rfl
  | @cons piece value pieces values head tail =>
    dsimp only
    cases tail with
    | nil =>
      rw [separated] at enough ⊢
      have item : readStarNamed fuel (piece ++ .op "]" :: rest) =
          .some (value, .op "]" :: rest) := head.starNamed (by omega) Nat.zero_lt_one
      split
      · next equal => exact absurd equal (head.phrase.append_ne (by decide))
      · simp [item, atClause, atOp, expectOp]
    | cons next others =>
      rw [separated] at enough ⊢
      simp only [length_append, length_cons] at enough
      have item (left : List Token) : readStarNamed fuel (piece ++ .op "," :: left) =
          .some (value, .op "," :: left) := head.starNamed (by omega) Nat.zero_lt_one
      have items := @readItems_separated rest fuel _ _ (.cons next others) (by simp) (by omega)
      rw [append_assoc, cons_append]
      split
      · next equal => exact absurd equal (head.phrase.append_ne (by decide))
      · simp [item, items, atClause, atOp]

theorem reads_list (read : List.Forall₂ (Reads .or) pieces values) :
    Reads .atom (.op "[" :: (separated pieces ++ [.op "]"])) (.list values) := by
  refine ⟨⟨⟨_, _, rfl, rfl⟩, rfl⟩, nofun, fun fuel rest enough loose => ?_⟩
  simp only [length_cons, length_append, length_nil] at enough
  obtain ⟨fuel, rfl⟩ : ∃ less, fuel = less + 2 := ⟨fuel - 2, by omega⟩
  simp only [cons_append, append_assoc, nil_append]
  rw [readAtom]
  exact readBracketed_separated read (by omega)

/-! ## Dictionaries -/

/-- Tokens of a key and a value with a colon between them. -/
inductive ReadsEntry : List Token → Option Code × Code → Prop where
  | intro {keyTokens tokens key value} (keyRead : Reads .or keyTokens key)
      (unnamed : ∀ target inner, key ≠ .named target inner) (read : Reads .or tokens value) :
      ReadsEntry (keyTokens ++ .op ":" :: tokens) (some key, value)

variable {entries : List (Option Code × Code)} {keyTokens : List Token} {key : Code}

/-- What the readers of entries make of what follows an entry. -/
def afterEntry {α : Type} (fuel : Nat) (make : List (Option Code × Code) → α)
    (entry : Option Code × Code) (rest : List Token) : Option (α × List Token) :=
  if atOp "," rest then
    (readDictEntries fuel (rest.drop 1)).map fun (entries, rest) => (make (entry :: entries), rest)
  else (expectOp "\x7d" rest).map fun rest => (make [entry], rest)

theorem readDictEntries_entry (rest : List Token) (keyRead : Reads .or keyTokens key)
    (read : Reads .or tokens value)
    (enough : 24 * (keyTokens ++ .op ":" :: tokens).length + 24 ≤ fuel + 1)
    (loose : grip rest < 1) :
    readDictEntries (fuel + 1) ((keyTokens ++ .op ":" :: tokens) ++ rest) =
      afterEntry fuel id (some key, value) rest := by
  simp only [length_append, length_cons] at enough
  have named : readExpression fuel (keyTokens ++ .op ":" :: (tokens ++ rest)) =
      some (key, .op ":" :: (tokens ++ rest)) := keyRead.expression (by omega) Nat.zero_lt_one
  have item : readExpression fuel (tokens ++ rest) = some (value, rest) :=
    read.expression (by omega) loose
  rw [append_assoc, cons_append, readDictEntries.eq_def]
  dsimp only
  split
  · next equal => exact absurd equal (keyRead.phrase.append_ne (by decide))
  · split
    · next equal => exact absurd equal (keyRead.phrase.append_ne (by decide))
    · simp only [afterEntry, named, item, expectOp, Option.bind_eq_bind, Option.bind_some, drop_one,
        if_true, id_eq, Option.map_eq_bind, Function.comp_def]

theorem readDictEntries_separated (read : List.Forall₂ ReadsEntry pieces entries)
    (some : pieces ≠ []) (enough : 24 * (separated pieces).length + 24 ≤ fuel) :
    readDictEntries fuel (separated pieces ++ .op "\x7d" :: rest) = .some (entries, rest) := by
  induction read generalizing fuel with
  | nil => exact absurd rfl some
  | cons head tail ih =>
    rcases fuel with _ | fuel
    · omega
    obtain ⟨keyRead, -, read⟩ := head
    cases tail with
    | nil =>
      rw [separated] at enough ⊢
      rw [readDictEntries_entry (.op "\x7d" :: rest) keyRead read enough Nat.zero_lt_one]
      simp [afterEntry, atOp, expectOp]
    | cons next others =>
      rw [separated, length_append, length_cons] at enough
      have items := @ih fuel (by simp) (by omega)
      rw [separated, append_assoc, cons_append,
        readDictEntries_entry (.op "," :: _) keyRead read (by omega) Nat.zero_lt_one]
      simp [afterEntry, atOp, items]

theorem readBraced_entry (rest : List Token) (keyRead : Reads .or keyTokens key)
    (unnamed : ∀ target inner, key ≠ .named target inner) (read : Reads .or tokens value)
    (enough : 24 * (keyTokens ++ .op ":" :: tokens).length + 24 ≤ fuel + 2)
    (loose : grip rest < 1) :
    readBraced (fuel + 2) ((keyTokens ++ .op ":" :: tokens) ++ rest) =
      afterEntry fuel .dict (some key, value) rest := by
  simp only [length_append, length_cons] at enough
  have named : readStarNamed (fuel + 1) (keyTokens ++ .op ":" :: (tokens ++ rest)) =
      some (key, .op ":" :: (tokens ++ rest)) := keyRead.starNamed (by omega) Nat.zero_lt_one
  have item : readExpression fuel (tokens ++ rest) = some (value, rest) :=
    read.expression (by omega) loose
  have entry : readDict (fuel + 1) key (.op ":" :: (tokens ++ rest)) =
      afterEntry fuel .dict (some key, value) rest := by
    rw [readDict.eq_def]
    simp only [afterEntry, expectOp, item, atClause_false (show grip rest < 9 by omega), if_true,
      Option.bind_eq_bind, Option.bind_some, drop_one, Bool.false_eq_true, if_false,
      Option.map_eq_bind, Function.comp_def]
  rw [append_assoc, cons_append, readBraced.eq_def]
  dsimp only
  split
  iterate 2 next equal => exact absurd equal (keyRead.phrase.append_ne (by decide))
  · simp only [named, bind_eq_bind, bind_some, atOp, decide_true, if_true]
    split
    · exact absurd rfl (keyRead.proper _)
    · exact absurd rfl (unnamed _ _)
    · exact entry

theorem reads_dict (read : List.Forall₂ ReadsEntry pieces entries) :
    Reads .atom (.op "\x7b" :: (separated pieces ++ [.op "\x7d"])) (.dict entries) := by
  refine ⟨⟨⟨_, _, rfl, rfl⟩, rfl⟩, nofun, fun fuel rest enough loose => ?_⟩
  simp only [length_cons, length_append, length_nil] at enough
  obtain ⟨fuel, rfl⟩ : ∃ less, fuel = less + 3 := ⟨fuel - 3, by omega⟩
  simp only [cons_append, append_assoc, nil_append]
  rw [readAtom]
  cases read with
  | nil => rfl
  | cons head tail =>
    obtain ⟨keyRead, unnamed, read⟩ := head
    cases tail with
    | nil =>
      rw [separated] at enough ⊢
      rw [readBraced_entry (.op "\x7d" :: rest) keyRead unnamed read (by omega) Nat.zero_lt_one]
      simp [afterEntry, atOp, expectOp]
    | cons next others =>
      rw [separated, length_append, length_cons] at enough
      have items := @readDictEntries_separated rest fuel _ _ (.cons next others) (by simp)
        (by omega)
      rw [separated, append_assoc, cons_append,
        readBraced_entry (.op "," :: _) keyRead unnamed read (by omega) Nat.zero_lt_one]
      simp [afterEntry, atOp, items]

end AgentFlow.Target
