import AgentFlow.Expr.Render
import Mathlib.Logic.Function.Iterate

/-!
# What the readers of the grammar make of tokens

Tokens hold together at a binding when the reader of that level, wherever they stand, reads them as
one piece of code, provided that the next token does not bind them more tightly.  Readers that
gather a chain to the left are described by where they stand in it.
-/

namespace AgentFlow.Target

open List
open AgentFlow.Expr (Binding)

variable {rest tokens others more : List Token} {token : Token} {value : Code} {fuel : Nat}
  {level : ArithLevel}

/-! ## What follows an operand -/

/-- How tightly a token holds on to an operand before it: the rank of the operator that it is, zero
for one that closes an expression, and more than any rank for all others. -/
def Token.grip : Token → Nat
  | .op text =>
    if text ∈ [")", "]", "\x7d", ",", ":"] then 0
    else if text ∈ ["==", "!=", "<", "<=", ">", ">="] then 4
    else if text ∈ ["+", "-"] then 5
    else if text ∈ ["*", "/", "%"] then 6
    else if text ∈ ["[", "(", "."] then 8
    else 9
  | .keyword word =>
    if word = "or" then 1 else if word = "and" then 2 else if word = "in" then 4 else 9
  | _ => 9

/-- How tightly what follows an operand holds on to it; the end of the tokens does not at all. -/
def grip : List Token → Nat
  | [] => 0
  | token :: _ => token.grip

/-- The rank of the operators of a level, beyond all others for those that expressions do not
have. -/
def ArithLevel.rank : ArithLevel → Nat
  | sum => 5
  | term => 6
  | _ => 9

theorem operator?_none (loose : token.grip < level.rank) : level.operator? token = none := by
  rw [ArithLevel.operator?.eq_def]
  split
  all_goals first | rfl | exact absurd loose (by decide)

theorem comparison?_none (loose : grip rest < 4) : comparison? rest = none := by
  rw [comparison?.eq_def]
  split <;> simp [grip, Token.grip] at loose ⊢

theorem atOp_false {text : String} (tight : 9 ≤ (Token.op text).grip) (loose : grip rest < 9) :
    atOp text rest = false := by
  rw [atOp.eq_def]
  split
  · next found _ =>
      rw [decide_eq_false_iff_not]
      rintro rfl
      exact absurd loose (Nat.not_lt.2 tight)
  · rfl

theorem atClause_false (loose : grip rest < 9) : atClause rest = false := by
  rw [atClause.eq_def]
  split <;> simp [grip, Token.grip] at loose ⊢

/-! ## Where the readers stop -/

theorem readTrailers_stop (some : 0 < fuel) (loose : grip rest < 8) :
    readTrailers fuel value rest = .some (value, rest) := by
  rcases fuel with _ | fuel
  · omega
  rw [readTrailers.eq_def]
  dsimp only
  split <;> simp [grip, Token.grip] at loose ⊢

theorem readArithChain_stop (some : 0 < fuel) (loose : grip rest < level.rank) :
    readArithChain fuel level value rest = .some (value, rest) := by
  rcases fuel with _ | fuel
  · omega
  rw [readArithChain.eq_def]
  cases rest with
  | nil => rfl
  | cons token more => simp [operator?_none (show token.grip < level.rank from loose)]

theorem readComparands_stop (some : 0 < fuel) (loose : grip rest < 4) :
    readComparands fuel rest = .some ([], rest) := by
  rcases fuel with _ | fuel
  · omega
  rw [readComparands.eq_def]
  simp [comparison?_none loose]

theorem readConjuncts_stop (some : 0 < fuel) (loose : grip rest < 2) :
    readConjuncts fuel rest = .some ([], rest) := by
  rcases fuel with _ | fuel
  · omega
  rw [readConjuncts.eq_def]
  dsimp only
  split <;> simp [grip, Token.grip] at loose ⊢

theorem readDisjuncts_stop (some : 0 < fuel) (loose : grip rest < 1) :
    readDisjuncts fuel rest = .some ([], rest) := by
  rcases fuel with _ | fuel
  · omega
  rw [readDisjuncts.eq_def]
  dsimp only
  split <;> simp [grip, Token.grip] at loose ⊢

/-! ## Phrases -/

def startsAtom : Token → Bool
  | .name _ | .number _ | .string _ => true
  | .keyword word => word ∈ ["None", "True", "False"]
  | .op text => text ∈ ["(", "[", "\x7b"]
  | .newline => false

def startsFactor (token : Token) : Bool :=
  startsAtom token || token ∈ [.op "+", .op "-", .keyword "await"]

/-- Whether an expression without an anonymous function may start with a token. -/
def startsExpression (token : Token) : Bool := startsFactor token || token = .keyword "not"

theorem startsFactor_of_startsAtom (token : Token) (starts : startsAtom token = true) :
    startsFactor token = true := by
  simp [startsFactor, starts]

theorem startsExpression_of_startsFactor (token : Token) (starts : startsFactor token = true) :
    startsExpression token = true := by
  simp [startsExpression, starts]

def starts : Binding → Token → Bool
  | .atom | .access => startsAtom
  | .unary | .mul | .add | .compare => startsFactor
  | .not | .and | .or => startsExpression

def bindsName (token : Token) : Bool := token ∈ [.op ":=", .op "="]

def startsBinding : List Token → Bool
  | .name _ :: mark :: _ => bindsName mark
  | _ => false

/-- Tokens that start like an expression and not with a name that is given to a value. -/
structure Phrase (starts : Token → Bool) (tokens : List Token) : Prop where
  opens : ∃ token more, tokens = token :: more ∧ starts token = true
  plain : startsBinding tokens = false

namespace Phrase

variable {first later : Token → Bool}

variable (phrase : Phrase first tokens)
include phrase

theorem mono (weaker : ∀ token, first token = true → later token = true) :
    Phrase later tokens := by
  obtain ⟨token, more, shape, starts⟩ := phrase.opens
  exact ⟨⟨token, more, shape, weaker token starts⟩, phrase.plain⟩

theorem length_pos : 0 < tokens.length := by
  obtain ⟨token, more, rfl, -⟩ := phrase.opens
  simp

theorem append (plain : bindsName token = false) :
    Phrase first (tokens ++ token :: others) := by
  obtain ⟨start, more, rfl, starts⟩ := phrase.opens
  refine ⟨⟨start, more ++ token :: others, rfl, starts⟩, ?_⟩
  cases start with
  | name id =>
    cases more with
    | nil => exact plain
    | cons next more => exact phrase.plain
  | _ => rfl

theorem append_ne (other : first token = false) :
    tokens ++ rest ≠ token :: more := by
  intro equal
  obtain ⟨start, tail, rfl, starts⟩ := phrase.opens
  obtain rfl : start = token := (List.cons.inj equal).1
  exact absurd starts (by simp [other])

theorem expectOp_none {text : String} (other : first (.op text) = false) :
    expectOp text (tokens ++ rest) = none := by
  rw [expectOp.eq_def]
  split
  · next found _ equal =>
      have different : found ≠ text := by
        rintro rfl
        exact phrase.append_ne other equal
      rw [if_neg different]
  · rfl

theorem append_ne_binding (loose : grip rest < 9) {mark : Token}
    (binds : bindsName mark = true) (tight : mark.grip = 9) (id : Text) (more : List Token) :
    tokens ++ rest ≠ .name id :: mark :: more := by
  intro equal
  obtain ⟨token, tail, rfl, -⟩ := phrase.opens
  rw [cons_append, List.cons.injEq] at equal
  cases tail with
  | nil =>
    obtain rfl : rest = mark :: more := equal.2
    exact absurd loose (Nat.not_lt.2 (Nat.le_of_eq tight.symm))
  | cons next tail =>
    obtain rfl : next = mark := (List.cons.inj equal.2).1
    obtain rfl : token = .name id := equal.1
    exact Bool.noConfusion (binds.symm.trans phrase.plain)

end Phrase

/-! ## Readers that hand on to the next one -/

theorem readPower_primary (starts : startsAtom token = true)
    (primary : readPrimary fuel (token :: more) = some (value, rest)) (loose : grip rest < 9) :
    readPower (fuel + 1) (token :: more) = some (value, rest) := by
  rw [readPower.eq_def]
  dsimp only
  split
  · next equal =>
      obtain ⟨rfl, -⟩ := List.cons.inj equal
      exact absurd starts (by decide)
  · simp only [primary, Option.bind_eq_bind, Option.bind_some]
    split
    · exact absurd loose (by simp [grip, Token.grip])
    · rfl

theorem factorOp?_none (starts : startsAtom token = true) : factorOp? token = none := by
  rw [factorOp?.eq_def]
  split
  all_goals first | rfl | exact absurd starts (by decide)

theorem readFactor_power (starts : startsAtom token = true) :
    readFactor (fuel + 1) (token :: more) = readPower fuel (token :: more) := by
  rw [readFactor.eq_def]
  simp only [factorOp?_none starts]

theorem readInversion_comparison (starts : startsFactor token = true) :
    readInversion (fuel + 1) (token :: more) = readComparison fuel (token :: more) := by
  rw [readInversion.eq_def]
  dsimp only
  split
  · next equal =>
      obtain ⟨rfl, -⟩ := List.cons.inj equal
      exact absurd starts (by decide)
  · rfl

theorem readExpression_disjunction (starts : startsExpression token = true)
    (disjunction : readDisjunction fuel (token :: more) = some (value, rest))
    (loose : grip rest < 9) :
    readExpression (fuel + 1) (token :: more) = some (value, rest) := by
  rw [readExpression.eq_def]
  dsimp only
  split
  · next equal =>
      obtain ⟨rfl, -⟩ := List.cons.inj equal
      exact absurd starts (by decide)
  · simp only [disjunction, Option.bind_eq_bind, Option.bind_some]
    split
    · exact absurd loose (by simp [grip, Token.grip])
    · rfl

/-! ## Bindings -/

def joined (op : BoolOp) (first : Code) (more : List Code) : Code :=
  if more.isEmpty then first else .boolOp op (first :: more)

/-- A reader has read tokens and goes on after them, with at most one step for each of them. -/
def GoesOn {α : Type} (extra limit : Nat) (read go : Nat → List Token → Option (α × List Token))
    (tokens : List Token) : Prop :=
  ∃ steps ≤ tokens.length, ∀ fuel rest, 24 * tokens.length + extra ≤ fuel → grip rest < limit →
    read fuel (tokens ++ rest) = go (fuel - 1 - steps) rest

section GoesOn

variable {α : Type} {extra limit : Nat} {read go go' : Nat → List Token → Option (α × List Token)}

theorem GoesOn.start (some : 0 < extra) (reads : ∀ fuel rest,
      24 * tokens.length + extra ≤ fuel + 1 → grip rest < limit →
        read (fuel + 1) (tokens ++ rest) = go fuel rest) : GoesOn extra limit read go tokens := by
  refine ⟨0, Nat.zero_le _, fun fuel rest enough loose => ?_⟩
  rcases fuel with _ | fuel
  · omega
  exact reads fuel rest enough loose

/-- A reader that goes on comes to its end where nothing holds on to what it has read. -/
theorem GoesOn.stop {result : Option (α × List Token)} (before : GoesOn extra limit read go tokens)
    (some : 0 < tokens.length) (stops : ∀ fuel, 0 < fuel → go fuel rest = result)
    (enough : 24 * tokens.length + extra ≤ fuel) (loose : grip rest < limit) :
    read fuel (tokens ++ rest) = result := by
  obtain ⟨steps, few, reads⟩ := before
  rw [reads fuel rest enough loose, stops _ (by omega)]

/-- A reader that goes on takes one more step, over a token and those that belong to it. -/
theorem GoesOn.step (before : GoesOn extra limit read go tokens) (grips : token.grip < limit)
    (next : ∀ fuel rest, 24 * others.length + 22 ≤ fuel → grip rest < limit →
      go (fuel + 1) (token :: (others ++ rest)) = go' fuel rest) :
    GoesOn extra limit read go' (tokens ++ token :: others) := by
  obtain ⟨steps, few, reads⟩ := before
  refine ⟨steps + 1, ?_, fun fuel rest enough loose => ?_⟩
  · simp only [length_append, length_cons]
    omega
  · simp only [length_append, length_cons] at enough
    obtain ⟨left, more⟩ : ∃ left, fuel - 1 - steps = left + 1 := ⟨fuel - 1 - steps - 1, by omega⟩
    rw [append_assoc, cons_append, reads fuel (token :: (others ++ rest)) (by omega) grips, more,
      next left rest (by omega) loose, show fuel - 1 - (steps + 1) = left by omega]

end GoesOn

/-- What the reader for a level of arithmetic makes of tokens: an operand to the left of a chain. -/
@[reducible] def ChainsAt (level : ArithLevel) (extra limit : Nat) (tokens : List Token)
    (value : Code) : Prop :=
  GoesOn extra limit (readArith · level) (readArithChain · level value) tokens

/-- What the reader for a binding makes of tokens and what follows them.  A call of a reader takes a
unit of fuel, and no token of an expression takes more than twenty-four calls.  At the bindings that
chain to the left, the reader goes on with the chain. -/
@[reducible] def ReadsAt : Binding → List Token → Code → Prop
  | .atom, tokens, value => ∀ fuel rest, 24 * tokens.length ≤ fuel → grip rest < 9 →
      readAtom fuel (tokens ++ rest) = some (value, rest)
  | .access, tokens, value => GoesOn 1 9 readPrimary (readTrailers · value) tokens
  | .unary, tokens, value => ∀ fuel rest, 24 * tokens.length + 3 ≤ fuel → grip rest < 7 →
      readFactor fuel (tokens ++ rest) = some (value, rest)
  | .mul, tokens, value => ChainsAt .term 5 7 tokens value
  | .add, tokens, value => ChainsAt .sum 7 6 tokens value
  | .compare, tokens, value => ∀ fuel rest, 24 * tokens.length + 16 ≤ fuel → grip rest < 4 →
      readComparison fuel (tokens ++ rest) = some (value, rest)
  | .not, tokens, value => ∀ fuel rest, 24 * tokens.length + 17 ≤ fuel → grip rest < 3 →
      readInversion fuel (tokens ++ rest) = some (value, rest)
  | .and, tokens, value => ∀ fuel rest, 24 * tokens.length + 18 ≤ fuel → grip rest < 2 →
      readConjunction fuel (tokens ++ rest) = some (value, rest)
  | .or, tokens, value => ∀ fuel rest, 24 * tokens.length + 19 ≤ fuel → grip rest < 1 →
      readDisjunction fuel (tokens ++ rest) = some (value, rest)

/-- **Tokens that hold together at a binding** and are read as a piece of code there. -/
structure Reads (binding : Binding) (tokens : List Token) (value : Code) : Prop where
  phrase : Phrase (starts binding) tokens
  proper : ∀ inner, value ≠ .starred inner
  reads : ReadsAt binding tokens value

/-- What the readers of connectives make of tokens: they have gathered some operands and go on. -/
@[reducible] def GathersAt : BoolOp → List Token → Code → List Code → Prop
  | .and, tokens, first, more => GoesOn 18 3 readConjunction (fun fuel rest =>
      (readConjuncts fuel rest).map fun (further, rest) =>
        (joined .and first (more ++ further), rest)) tokens
  | .or, tokens, first, more => GoesOn 19 2 readDisjunction (fun fuel rest =>
      (readDisjuncts fuel rest).map fun (further, rest) =>
        (joined .or first (more ++ further), rest)) tokens

/-- Tokens that are read as operands of a connective, the first one and more. -/
structure Gathers (op : BoolOp) (tokens : List Token) (first : Code) (more : List Code) : Prop where
  phrase : Phrase startsExpression tokens
  proper : ∀ inner, first ≠ .starred inner
  gathers : GathersAt op tokens first more

namespace Reads

theorem access (read : Reads .atom tokens value) : Reads .access tokens value := by
  refine ⟨read.phrase, read.proper, .start (by decide) fun fuel rest enough loose => ?_⟩
  rw [readPrimary.eq_def]
  simp [read.reads fuel rest (by omega) loose]

theorem primary (read : Reads .access tokens value) (enough : 24 * tokens.length + 1 ≤ fuel)
    (loose : grip rest < 8) : readPrimary fuel (tokens ++ rest) = some (value, rest) :=
  GoesOn.stop read.reads read.phrase.length_pos (fun _ some => readTrailers_stop some loose) enough
    (by omega)

theorem unary (read : Reads .access tokens value) : Reads .unary tokens value := by
  refine ⟨read.phrase.mono startsFactor_of_startsAtom, read.proper,
    fun fuel rest enough loose => ?_⟩
  obtain ⟨fuel, rfl⟩ : ∃ less, fuel = less + 2 := ⟨fuel - 2, by omega⟩
  have primary : readPrimary fuel (tokens ++ rest) = some (value, rest) :=
    read.primary (by omega) (by omega)
  obtain ⟨token, more, rfl, starts⟩ := read.phrase.opens
  rw [cons_append] at primary ⊢
  rw [readFactor_power starts, readPower_primary starts primary (by omega)]

theorem factor (read : Reads .unary tokens value) (enough : 24 * tokens.length + 4 ≤ fuel)
    (loose : grip rest < 7) :
    readArithOperand fuel .term (tokens ++ rest) = some (value, rest) := by
  rcases fuel with _ | fuel
  · omega
  rw [readArithOperand.eq_def]
  exact read.reads fuel rest (by omega) loose

theorem mul (read : Reads .unary tokens value) : Reads .mul tokens value := by
  refine ⟨read.phrase, read.proper, .start (by decide) fun fuel rest enough loose => ?_⟩
  rw [readArith.eq_def]
  simp [read.factor (Nat.le_of_succ_le_succ enough) loose]

theorem term (read : Reads .mul tokens value) (enough : 24 * tokens.length + 6 ≤ fuel)
    (loose : grip rest < 6) :
    readArithOperand fuel .sum (tokens ++ rest) = some (value, rest) := by
  rcases fuel with _ | fuel
  · omega
  rw [readArithOperand.eq_def]
  exact GoesOn.stop read.reads read.phrase.length_pos
    (fun _ some => readArithChain_stop some loose) (by omega) (by omega)

theorem add (read : Reads .mul tokens value) : Reads .add tokens value := by
  refine ⟨read.phrase, read.proper, .start (by decide) fun fuel rest enough loose => ?_⟩
  rw [readArith.eq_def]
  simp [read.term (Nat.le_of_succ_le_succ enough) loose]

theorem sum (read : Reads .add tokens value) (enough : 24 * tokens.length + 7 ≤ fuel)
    (loose : grip rest < 5) : readArith fuel .sum (tokens ++ rest) = some (value, rest) :=
  GoesOn.stop read.reads read.phrase.length_pos
    (fun _ some => readArithChain_stop some loose) enough
    (by omega)

end Reads

/-- Without an operator of a level after it, what the next tighter level reads is an operand of that
level. -/
theorem readArith_tighter {next : ArithLevel} (tighter : level.tighter? = some next)
    (read : readArith fuel next tokens = some (value, rest)) (loose : grip rest < level.rank) :
    readArith (fuel + 2) level tokens = some (value, rest) := by
  have operand : readArithOperand (fuel + 1) level tokens = some (value, rest) := by
    rw [readArithOperand.eq_def]
    simpa only [tighter] using read
  rw [readArith.eq_def]
  simp [operand, readArithChain_stop (Nat.succ_pos fuel) loose]

namespace Reads

theorem comparand (read : Reads .add tokens value) (enough : 24 * tokens.length + 15 ≤ fuel)
    (loose : grip rest < 5) : readArith fuel .bitOr (tokens ++ rest) = some (value, rest) := by
  obtain ⟨fuel, rfl⟩ : ∃ less, fuel = less + 8 := ⟨fuel - 8, by omega⟩
  have sum : readArith fuel .sum (tokens ++ rest) = some (value, rest) := read.sum (by omega) loose
  have shift := readArith_tighter rfl sum
    (show grip rest < ArithLevel.shift.rank by simp only [ArithLevel.rank]; omega)
  have bitAnd := readArith_tighter rfl shift
    (show grip rest < ArithLevel.bitAnd.rank by simp only [ArithLevel.rank]; omega)
  have bitXor := readArith_tighter rfl bitAnd
    (show grip rest < ArithLevel.bitXor.rank by simp only [ArithLevel.rank]; omega)
  exact readArith_tighter rfl bitXor (by simp only [ArithLevel.rank]; omega)

theorem compare (read : Reads .add tokens value) : Reads .compare tokens value := by
  refine ⟨read.phrase, read.proper, fun fuel rest enough loose => ?_⟩
  rcases fuel with _ | fuel
  · omega
  have operand : readArith fuel .bitOr (tokens ++ rest) = some (value, rest) :=
    read.comparand (by omega) (by omega)
  have stop : readComparands fuel rest = some ([], rest) := readComparands_stop (by omega) loose
  rw [readComparison.eq_def]
  simp [operand, stop]

theorem not (read : Reads .compare tokens value) : Reads .not tokens value := by
  refine ⟨read.phrase.mono startsExpression_of_startsFactor, read.proper,
    fun fuel rest enough loose => ?_⟩
  rcases fuel with _ | fuel
  · omega
  have reads := read.reads fuel rest (by omega) (by omega)
  obtain ⟨token, more, rfl, starts⟩ := read.phrase.opens
  rw [cons_append, readInversion_comparison starts]
  exact reads

end Reads

/-! ## Connectives -/

theorem joined_proper {op : BoolOp} {first : Code} {values : List Code}
    (proper : ∀ inner, first ≠ .starred inner) (inner : Code) :
    joined op first values ≠ .starred inner := by
  rw [joined]
  split
  · exact proper inner
  · nofun

namespace Gathers

variable {first : Code} {values : List Code}

theorem of_not (read : Reads .not tokens first) : Gathers .and tokens first [] := by
  refine ⟨read.phrase, read.proper, .start (by decide) fun fuel rest enough loose => ?_⟩
  rw [readConjunction.eq_def]
  simp only [read.reads fuel rest (by omega) loose, List.isEmpty_iff, Option.bind_eq_bind,
    Option.bind_some, joined, nil_append, Option.map_eq_bind, Function.comp_def]

theorem and (gathered : Gathers .and tokens first values) :
    Reads .and tokens (joined .and first values) := by
  refine ⟨gathered.phrase, joined_proper gathered.proper, fun fuel rest enough loose => ?_⟩
  refine GoesOn.stop gathered.gathers gathered.phrase.length_pos ?_ enough (by omega)
  intro fuel some
  simp [readConjuncts_stop some loose]

theorem of_and (read : Reads .and tokens first) : Gathers .or tokens first [] := by
  refine ⟨read.phrase, read.proper, .start (by decide) fun fuel rest enough loose => ?_⟩
  rw [readDisjunction.eq_def]
  simp only [read.reads fuel rest (by omega) loose, List.isEmpty_iff, Option.bind_eq_bind,
    Option.bind_some, joined, nil_append, Option.map_eq_bind, Function.comp_def]

theorem or (gathered : Gathers .or tokens first values) :
    Reads .or tokens (joined .or first values) := by
  refine ⟨gathered.phrase, joined_proper gathered.proper, fun fuel rest enough loose => ?_⟩
  refine GoesOn.stop gathered.gathers gathered.phrase.length_pos ?_ enough (by omega)
  intro fuel some
  simp [readDisjuncts_stop some loose]

end Gathers

/-! ## Every looser place -/

def looser : Binding → Binding
  | .atom => .access
  | .access => .unary
  | .unary => .mul
  | .mul => .add
  | .add => .compare
  | .compare => .not
  | .not => .and
  | .and | .or => .or

theorem looser_iterate (tight loose : Binding) (order : loose.rank ≤ tight.rank) :
    looser^[tight.rank - loose.rank] tight = loose := by
  cases tight <;> cases loose <;> first | rfl | exact absurd order (by decide)

namespace Reads

theorem looser {binding : Binding} (read : Reads binding tokens value) :
    Reads (looser binding) tokens value := by
  cases binding with
  | atom => exact read.access
  | access => exact read.unary
  | unary => exact read.mul
  | mul => exact read.add
  | add => exact read.compare
  | compare => exact read.not
  | not => exact (Gathers.of_not read).and
  | and => exact (Gathers.of_and read).or
  | or => exact read

/-- **Tokens that hold together hold together at every looser binding.** -/
theorem loosen {tight loose : Binding} (read : Reads tight tokens value)
    (order : loose.rank ≤ tight.rank) : Reads loose tokens value := by
  have all (steps : Nat) : Reads (Target.looser^[steps] tight) tokens value := by
    induction steps with
    | zero => exact read
    | succ steps ih =>
      rw [Function.iterate_succ_apply']
      exact ih.looser
  exact looser_iterate tight loose order ▸ all _

/-! ## Whole expressions -/

theorem expression (read : Reads .or tokens value) (enough : 24 * tokens.length + 20 ≤ fuel)
    (loose : grip rest < 1) : readExpression fuel (tokens ++ rest) = some (value, rest) := by
  rcases fuel with _ | fuel
  · omega
  have reads := read.reads fuel rest (by omega) loose
  obtain ⟨token, more, rfl, starts⟩ := read.phrase.opens
  exact readExpression_disjunction starts reads (by omega)

theorem named (read : Reads .or tokens value) (enough : 24 * tokens.length + 21 ≤ fuel)
    (loose : grip rest < 1) : readNamed fuel (tokens ++ rest) = some (value, rest) := by
  rcases fuel with _ | fuel
  · omega
  have reads : readExpression fuel (tokens ++ rest) = some (value, rest) :=
    read.expression (by omega) loose
  have unnamed : atOp ":=" rest = false := atOp_false (by decide) (by omega)
  rw [readNamed.eq_def]
  dsimp only
  split
  · next equal =>
      exact absurd equal (read.phrase.append_ne_binding (by omega) (by decide) (by decide) _ _)
  · simp [reads, unnamed]

theorem starNamed (read : Reads .or tokens value) (enough : 24 * tokens.length + 22 ≤ fuel)
    (loose : grip rest < 1) : readStarNamed fuel (tokens ++ rest) = some (value, rest) := by
  rcases fuel with _ | fuel
  · omega
  have reads : readNamed fuel (tokens ++ rest) = some (value, rest) := read.named (by omega) loose
  rw [readStarNamed.eq_def]
  dsimp only
  split
  · next equal => exact absurd equal (read.phrase.append_ne (by decide))
  · exact reads

end Reads

end AgentFlow.Target
