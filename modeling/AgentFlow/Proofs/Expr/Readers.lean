import AgentFlow.Proofs.Expr.Grammar
import AgentFlow.Proofs.Stoppable

/-!
# What each reader of the parser does

The readers carry the fact that they leave fewer tokens, and their tables are functions of a token.
The equations here say what a reader does in terms of the others, with that fact left out, and the
tables are compared with those of the grammar.
-/

namespace AgentFlow.Expr.Grammar

/-! ## The readers without their length bounds -/

abbrev Reader (α : Type) := List Token → Except Fault (α × List Token)

def ofParsed {α : Type} {tokens : List Token} (parsed : Parsed α tokens) : α × List Token :=
  (parsed.value, parsed.rest)

def ofExtended {tokens : List Token} (extended : Extended tokens) : Expr × List Token :=
  (extended.value, extended.rest)

def readLevel (level : Level) : Reader Expr := fun tokens => (parseLevel level tokens).map ofParsed

def readOperand (level : Level) : Reader Expr := fun tokens =>
  (parseOperand level tokens).map ofParsed

def readChain (level : Level) (left : Expr) : Reader Expr := fun tokens =>
  (parseChain level left tokens).map ofExtended

def readUnary : Reader Expr := fun tokens => (parseUnary tokens).map ofParsed

def readAccessed : Reader Expr := fun tokens => (parseAccessed tokens).map ofParsed

def readAccess (target : Expr) : Reader Expr := fun tokens =>
  (parseAccess target tokens).map ofExtended

def readPrimary : Reader Expr := fun tokens => (parsePrimary tokens).map ofParsed

def readArguments : Reader (List Expr) := fun tokens => (parseArguments tokens).map ofParsed

def readMoreArguments : Reader (List Expr) := fun tokens => (parseMoreArguments tokens).map ofParsed

def readItems : Reader (List Expr) := fun tokens => (parseItems tokens).map ofParsed

def readEntries : Reader (List (Text × Expr)) := fun tokens => (parseEntries tokens).map ofParsed

def readSymbol (symbol : Symbol) : Reader Unit := fun tokens =>
  (expectSymbol symbol tokens).map ofParsed

section Strip

variable {α β γ δ : Type} {read : Except Fault α} {strip : α → β} {next : α → Except Fault γ}

theorem map_bind {strip' : γ → δ} {after : β → Except Fault δ}
    (same : ∀ value, (next value).map strip' = after (strip value)) :
    (read >>= next).map strip' = read.map strip >>= after := by
  cases read with
  | error fault => rfl
  | ok value => exact same value

theorem map_last {strip' : γ → β} (same : ∀ value, (next value).map strip' = .ok (strip value)) :
    (read >>= next).map strip' = read.map strip := by
  cases read with
  | error fault => rfl
  | ok value => exact same value

end Strip

theorem readSymbol_cons (symbol : Symbol) (token : Token) (rest : List Token) :
    readSymbol symbol (token :: rest) =
      if token.isSymbol symbol then .ok ((), rest)
      else .error (failure (.symbol symbol) (token :: rest)) := by
  simp only [readSymbol, expectSymbol]
  split <;> rfl

theorem readLevel_eq (level : Level) (tokens : List Token) :
    readLevel level tokens =
      readOperand level tokens >>= fun first => readChain level first.1 first.2 := by
  rw [readLevel, parseLevel]
  exact map_bind fun _ => map_last fun _ => rfl

theorem readOperand_eq (level : Level) (tokens : List Token) :
    readOperand level tokens = match level.tighter? with
      | some next => readLevel next tokens
      | none => readUnary tokens := by
  simp only [readLevel, readOperand, readUnary]
  rw [parseOperand]
  split <;> rename_i step <;> simp only [step]

variable {level : Level} {tokens : List Token} {token : Token} {combine : Expr → Expr → Expr}
  {sign : Sign} {symbol : Symbol} {operator : Operator} {word : Text}

theorem readChain_stop (left : Expr)
    (stops : ∀ token ∈ tokens.head?, level.operator? token = none) :
    readChain level left tokens = .ok (left, tokens) := by
  rw [readChain, parseChain.eq_def]
  cases tokens with
  | nil => rfl
  | cons token rest => simp only [stops token rfl, Except.map, ofExtended]

theorem readChain_step (left : Expr) (rest : List Token)
    (joins : level.operator? token = some combine) :
    readChain level left (token :: rest) =
      readOperand level rest >>= fun right => readChain level (combine left right.1) right.2 := by
  rw [readChain, parseChain]
  simp only [joins]
  exact map_bind fun _ => map_last fun _ => rfl

theorem readUnary_signed (rest : List Token) (isSign : Sign.ofToken? token = some sign) :
    readUnary (token :: rest) =
      readUnary rest >>= fun inner => .ok (.unary sign inner.1, inner.2) := by
  rw [readUnary, parseUnary]
  simp only [isSign]
  exact map_bind fun _ => rfl

theorem readUnary_unsigned (rest : List Token) (noSign : Sign.ofToken? token = none) :
    readUnary (token :: rest) = readAccessed (token :: rest) := by
  rw [readUnary, parseUnary]
  simp only [noSign]
  rfl

theorem readAccessed_eq (tokens : List Token) :
    readAccessed tokens = readPrimary tokens >>= fun target => readAccess target.1 target.2 := by
  rw [readAccessed, parseAccessed]
  exact map_bind fun _ => map_last fun _ => rfl

theorem readAccess_stop (target : Expr) (stops : ∀ token ∈ tokens.head?,
      token.isSymbol .dot = false ∧ token.isSymbol .openBracket = false) :
    readAccess target tokens = .ok (target, tokens) := by
  rw [readAccess, parseAccess.eq_def]
  cases tokens with
  | nil => rfl
  | cons token rest =>
    obtain ⟨notDot, notOpen⟩ := stops token rfl
    simp [notDot, notOpen, Except.map, ofExtended]

theorem readAccess_dot {dot : Token} (target : Expr) (rest : List Token)
    (isDot : dot.isSymbol .dot = true) :
    readAccess target (dot :: rest) = match rest with
      | field :: rest' =>
        if word : field.kind = .word then
          readAccess (.member target ⟨field.text, field.plain word⟩) rest'
        else .error (failure .fieldName (field :: rest'))
      | [] => .error (failure .fieldName []) := by
  rw [readAccess, parseAccess.eq_def]
  simp only [isDot, if_true]
  rcases rest with _ | ⟨field, rest'⟩
  · rfl
  · dsimp only
    split
    · exact map_last fun _ => rfl
    · rfl

theorem readAccess_open {opening : Token} (target : Expr) (rest : List Token)
    (opens : opening.isSymbol .openBracket = true) :
    readAccess target (opening :: rest) =
      readLevel .or rest >>= fun position =>
        readSymbol .closeBracket position.2 >>= fun closed =>
          readAccess (.index target position.1) closed.2 := by
  have notDot : opening.isSymbol .dot = false := by
    simp only [Token.isSymbol, decide_eq_true_eq] at opens
    simp [Token.isSymbol, opens]
  rw [readAccess, parseAccess.eq_def]
  simp only [notDot, opens, if_true, Bool.false_eq_true, if_false]
  exact map_bind fun _ => map_bind fun _ => map_last fun _ => rfl

/-- How a sequence goes on after an item: with a comma and more of it, or with its end. -/
def afterItem {α : Type} (closing : Symbol)
    (again : Reader (List α)) (item : α) (tokens : List Token) :
    Except Fault (List α × List Token) :=
  match tokens with
  | next :: rest =>
    if next.isSymbol .comma then again rest >>= fun more => .ok (item :: more.1, more.2)
    else readSymbol closing (next :: rest) >>= fun closed => .ok ([item], closed.2)
  | [] => .error (failure (.symbol closing) [])

theorem readMoreArguments_eq (tokens : List Token) :
    readMoreArguments tokens =
      readLevel .or tokens >>= fun argument =>
        afterItem .closeParen readMoreArguments argument.1 argument.2 := by
  rw [readMoreArguments, parseMoreArguments]
  refine map_bind ?_
  rintro ⟨argument, _ | ⟨next, rest⟩, shorter⟩
  · rfl
  · dsimp only [ofParsed, afterItem]
    split <;> exact map_bind fun _ => rfl

theorem readArguments_cons (token : Token) (rest : List Token) :
    readArguments (token :: rest) =
      if token.isSymbol .closeParen then .ok ([], rest) else readMoreArguments (token :: rest) := by
  rw [readArguments, parseArguments]
  split <;> rfl

theorem readItems_cons (token : Token) (rest : List Token) :
    readItems (token :: rest) =
      if token.isSymbol .closeBracket then .ok ([], rest)
      else readLevel .or (token :: rest) >>= fun item =>
        afterItem .closeBracket readItems item.1 item.2 := by
  rw [readItems, parseItems]
  split
  · rfl
  · refine map_bind ?_
    rintro ⟨item, _ | ⟨next, rest⟩, shorter⟩
    · rfl
    · dsimp only [ofParsed, afterItem]
      split <;> exact map_bind fun _ => rfl

theorem readEntries_cons (token : Token) (rest : List Token) :
    readEntries (token :: rest) =
      if token.isSymbol .closeBrace then .ok ([], rest)
      else match objectKey? token with
        | none => .error (failure .objectKey (token :: rest))
        | some key =>
          if key.isEmpty then .error (failure .nonEmptyKey rest)
          else readSymbol .colon rest >>= fun colon =>
            readLevel .or colon.2 >>= fun value =>
              afterItem .closeBrace readEntries (key, value.1) value.2 := by
  rw [readEntries, parseEntries]
  split
  · rfl
  · cases objectKey? token with
    | none => rfl
    | some key =>
      dsimp only
      split
      · rfl
      · refine map_bind fun _ => map_bind ?_
        rintro ⟨value, _ | ⟨next, rest⟩, shorter⟩
        · rfl
        · dsimp only [ofParsed, afterItem]
          split <;> exact map_bind fun _ => rfl

theorem readPrimary_cons (token : Token) (rest : List Token) :
    readPrimary (token :: rest) = match token.kind with
      | .integer value => .ok (.literal (.integer value), rest)
      | .decimal value => .ok (.literal (.decimal value), rest)
      | .string value => .ok (.literal (.string value), rest)
      | .word => match keywordLiteral? token.text with
        | some value => .ok (.literal value, rest)
        | none => match rest with
          | paren :: rest' =>
            if paren.isSymbol .openParen then
              readArguments rest' >>= fun arguments =>
                .ok (.call token.text arguments.1, arguments.2)
            else .ok (.name token.text, paren :: rest')
          | [] => .ok (.name token.text, [])
      | .symbol .openParen =>
        readLevel .or rest >>= fun inner =>
          readSymbol .closeParen inner.2 >>= fun closed => .ok (inner.1, closed.2)
      | .symbol .openBracket => readItems rest >>= fun items => .ok (.list items.1, items.2)
      | .symbol .openBrace => readEntries rest >>= fun entries => .ok (.object entries.1, entries.2)
      | _ => .error (failure .value (token :: rest)) := by
  rw [readPrimary, parsePrimary.eq_def]
  dsimp only
  generalize token.kind = kind
  cases kind with
  | word =>
    cases keywordLiteral? token.text with
    | some value => rfl
    | none =>
      rcases rest with _ | ⟨paren, rest'⟩
      · rfl
      · dsimp only
        split
        · exact map_bind fun _ => rfl
        · rfl
  | symbol symbol =>
    cases symbol with
    | openParen => exact map_bind fun _ => map_bind fun _ => rfl
    | openBracket | openBrace => exact map_bind fun _ => rfl
    | _ => rfl
  | _ => rfl

/-! ## Operators, words and keys -/

theorem isSymbol_iff : token.isSymbol symbol = true ↔ token.kind = .symbol symbol := by
  simp [Token.isSymbol]

theorem kind_of_spells (spells : Spells token symbol.text) : token.kind = .symbol symbol := by
  generalize same : symbol.text = text at spells
  cases spells with
  | symbol isSymbol => rw [isSymbol, symbol_text_injective same]
  | member => cases symbol <;> exact absurd same (by decide)

@[simp] def Operator.ofToken? (token : Token) : Option Operator :=
  match token.kind with
  | .symbol .or => some (.logical .or)
  | .symbol .and => some (.logical .and)
  | .symbol .eq => some (.compare .eq)
  | .symbol .ne => some (.compare .ne)
  | .symbol .lt => some (.compare .lt)
  | .symbol .le => some (.compare .le)
  | .symbol .gt => some (.compare .gt)
  | .symbol .ge => some (.compare .ge)
  | .word => if token.text = "in" then some (.compare .member) else none
  | .symbol .plus => some (.arith .add)
  | .symbol .minus => some (.arith .sub)
  | .symbol .times => some (.arith .mul)
  | .symbol .divide => some (.arith .div)
  | .symbol .modulo => some (.arith .mod)
  | _ => none

theorem operator?_eq (level : Level) (token : Token) :
    level.operator? token = (Operator.ofToken? token).bind fun operator =>
      if operator.level = level then some operator.apply else none := by
  unfold Level.operator? Operator.ofToken?
  generalize token.kind = kind
  cases kind with
  | word =>
    by_cases isIn : token.text = "in"
    · simp only [if_pos isIn]
      cases level <;> rfl
    · simp only [if_neg isIn]
      cases level <;> rfl
  | symbol symbol => cases symbol <;> cases level <;> rfl
  | _ => cases level <;> rfl

theorem spells_iff : Spells token operator.text ↔ Operator.ofToken? token = some operator := by
  constructor
  · intro spells
    generalize same : operator.text = text at spells
    unfold Operator.ofToken?
    cases spells with
    | @symbol symbol isSymbol =>
      rw [isSymbol]
      rcases operator with operator | comparison | connective
      · cases operator <;> cases symbol <;> first | rfl | exact absurd same (by decide)
      · cases comparison <;> cases symbol <;> first | rfl | exact absurd same (by decide)
      · cases connective <;> cases symbol <;> first | rfl | exact absurd same (by decide)
    | member isWord isIn =>
      simp only [isWord, isIn, if_true]
      rcases operator with operator | comparison | connective
      · cases operator <;> exact absurd same (by decide)
      · cases comparison <;> first | rfl | exact absurd same (by decide)
      · cases connective <;> exact absurd same (by decide)
  · intro found
    unfold Operator.ofToken? at found
    split at found
    case h_9 isWord =>
        split at found
        · next isIn =>
            cases found
            exact .member isWord isIn
        · cases found
    all_goals
      cases found <;> exact .symbol (by assumption)

theorem operator?_eq_some (joins : level.operator? token = some combine) :
    ∃ operator : Operator, operator.level = level ∧ Spells token operator.text ∧
      operator.apply = combine := by
  rw [operator?_eq] at joins
  obtain ⟨operator, found, chosen⟩ := Option.bind_eq_some_iff.1 joins
  split at chosen
  · next same => exact ⟨operator, same, spells_iff.2 found, Option.some.inj chosen⟩
  · cases chosen

theorem operator?_of_spells (spells : Spells token operator.text) :
    operator.level.operator? token = some operator.apply := by
  rw [operator?_eq, spells_iff.1 spells, Option.bind_some, if_pos rfl]

theorem sign_spells_iff : Sign.ofToken? token = some sign ↔ Spells token sign.text := by
  constructor
  · intro isSign
    simp only [Sign.ofToken?] at isSign
    split at isSign <;> rename_i kind <;> cases isSign <;> exact Spells.symbol kind
  · intro spells
    cases sign with
    | not => simp [Sign.ofToken?, kind_of_spells (show Spells token Symbol.not.text from spells)]
    | minus => simp [Sign.ofToken?,
      kind_of_spells (show Spells token Symbol.minus.text from spells)]
    | plus => simp [Sign.ofToken?, kind_of_spells (show Spells token Symbol.plus.text from spells)]

theorem keywordLiteral?_iff {value : Literal} :
    keywordLiteral? word = some value ↔ (word, value) ∈ keywords := by
  constructor
  · intro found
    simp only [keywordLiteral?] at found
    split at found
    · rename_i spelled
      rcases spelled with rfl | rfl <;> cases found <;> decide
    · split at found
      · rename_i spelled
        rcases spelled with rfl | rfl <;> cases found <;> decide
      · split at found
        · rename_i spelled
          rcases spelled with rfl | rfl <;> cases found <;> decide
        · cases found
  · simp only [keywords, List.mem_cons, Prod.mk.injEq, List.not_mem_nil, or_false]
    rintro (⟨rfl, rfl⟩ | ⟨rfl, rfl⟩ | ⟨rfl, rfl⟩ | ⟨rfl, rfl⟩ | ⟨rfl, rfl⟩ | ⟨rfl, rfl⟩) <;> decide

theorem keywordLiteral?_eq_none_iff :
    keywordLiteral? word = none ↔ ∀ value, (word, value) ∉ keywords := by
  simp only [← keywordLiteral?_iff]
  exact Option.eq_none_iff_forall_ne_some

theorem objectKey?_names {name : Text} (key : objectKey? token = some name)
    (notEmpty : ¬name.isEmpty = true) : Names token name := by
  refine ⟨?_, fun empty => notEmpty (by rw [empty]; rfl)⟩
  simp only [objectKey?] at key
  split at key <;> rename_i kind <;> cases key
  · exact .inr kind
  · exact .inl ⟨kind, rfl⟩

end AgentFlow.Expr.Grammar
