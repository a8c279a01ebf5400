import AgentFlow.Proofs.Expr.Readers

/-!
# What readers take

Tokens end in one that marks the end.  A reader that starts before it comes to a result that does
not depend on anything behind it: it fails at a token up to the end, or takes a stretch that derives
what it returns.  Every turn of a loop takes at least one token.
-/

namespace AgentFlow.Expr.Grammar

open List

/-! ## Stretches -/

/-- What a reader does with the tokens before the end, whatever stands behind it: it fails at one of
them or at the end, or it takes a stretch of them. -/
inductive Takes (finish : Token) {α : Type} (reader : Reader α) (tokens : List Token)
    (good : List Token → α → Prop) : Prop
  | fails (what : Expected) {token : Token} (listed : token ∈ tokens ++ [finish])
      (same : ∀ beyond, reader (tokens ++ finish :: beyond) = .error (failure what [token]))
  | takes {span rest : List Token} {value : α} (whole : tokens = span ++ rest)
      (holds : good span value)
      (same : ∀ beyond, reader (tokens ++ finish :: beyond) = .ok (value, rest ++ finish :: beyond))

/-- What sequences are made of: parts with their tokens and what is read from them. -/
structure Items (ι α : Type) where
  span : ι → List Token
  value : ι → α
  holds : ι → Prop

def expressions : Items (List Token × Expr) Expr where
  span := Prod.fst
  value := Prod.snd
  holds part := Derives (.level .or) part.1 part.2

def pairs : Items Entry (Text × Expr) where
  span := Entry.tokens
  value := Entry.pair
  holds entry := entry.Marked ∧ Derives (.level .or) entry.span entry.value

/-- A stretch of parts with commas between them, up to a closing symbol. -/
def Closed {ι α : Type} (items : Items ι α) (arranged : List (List Token) → List Token → Prop)
    (closing : Symbol) (span : List Token) (values : List α) : Prop :=
  ∃ (parts : List ι) (inner : List Token) (token : Token),
    span = inner ++ [token] ∧ token.kind = .symbol closing ∧
      arranged (parts.map items.span) inner ∧ (∀ part ∈ parts, items.holds part) ∧
      values = parts.map items.value

/-- Parts with a comma between each two of them, and at least one part. -/
def Joined (spans : List (List Token)) (inner : List Token) : Prop :=
  spans ≠ [] ∧ Separated spans inner

/-- A stretch with which what was there derives what is there now. -/
def Continued (stratum : Stratum) (given : Expr) (span : List Token) (tree : Expr) : Prop :=
  ∀ before, Derives stratum before given → Derives stratum (before ++ span) tree

/-- A property holds at all later places. -/
def Later (tokens : List Token) (property : List Token → Prop) : Prop :=
  ∀ span rest, tokens = span ++ rest → span ≠ [] → property rest

theorem Later.tail {property : List Token → Prop} {token : Token} {rest : List Token}
    (later : Later (token :: rest) property) : property rest :=
  later [token] rest rfl (cons_ne_nil _ _)

/-! ## Loops -/

/-- The loops of the parser, with what they carry along. -/
inductive Loop : Type → Type
  | chain (level : Level) (left : Expr) : Loop Expr
  | access (target : Expr) : Loop Expr
  | arguments : Loop (List Expr)
  | items : Loop (List Expr)
  | entries : Loop (List (Text × Expr))

namespace Loop

variable {α : Type}

def read : Loop α → Reader α
  | chain level left => readChain level left
  | access target => readAccess target
  | arguments => readMoreArguments
  | items => readItems
  | entries => readEntries

/-- What a loop takes. -/
def Good : Loop α → List Token → α → Prop
  | chain level left => Continued (.level level) left
  | access target => Continued .accessed target
  | arguments => Closed expressions Joined .closeParen
  | items => Closed expressions Trailed .closeBracket
  | entries => Closed pairs Trailed .closeBrace

/-- One turn of a loop, given how the loop goes on. -/
def turn (again : Loop α → Reader α) : Loop α → Reader α
  | _, [] => .error .empty
  | chain level left, token :: rest => match level.operator? token with
    | some combine => readOperand level rest >>= fun right =>
        again (chain level (combine left right.1)) right.2
    | none => .ok (left, token :: rest)
  | access target, token :: rest =>
    if token.isSymbol .dot then match rest with
      | field :: rest' =>
        if word : field.kind = .word then
          again (access (.member target ⟨field.text, field.plain word⟩)) rest'
        else .error (failure .fieldName (field :: rest'))
      | [] => .error (failure .fieldName [])
    else if token.isSymbol .openBracket then
      readLevel .or rest >>= fun position =>
        readSymbol .closeBracket position.2 >>= fun closed =>
          again (access (.index target position.1)) closed.2
    else .ok (target, token :: rest)
  | arguments, tokens => readLevel .or tokens >>= fun argument =>
      afterItem .closeParen (again arguments) argument.1 argument.2
  | items, token :: rest =>
    if token.isSymbol .closeBracket then .ok ([], rest)
    else readLevel .or (token :: rest) >>= fun item =>
      afterItem .closeBracket (again items) item.1 item.2
  | entries, token :: rest =>
    if token.isSymbol .closeBrace then .ok ([], rest)
    else match objectKey? token with
      | none => .error (failure .objectKey (token :: rest))
      | some key =>
        if key.isEmpty then .error (failure .nonEmptyKey rest)
        else readSymbol .colon rest >>= fun colon =>
          readLevel .or colon.2 >>= fun value =>
            afterItem .closeBrace (again entries) (key, value.1) value.2

theorem read_cons (loop : Loop α) (token : Token) (rest : List Token) :
    loop.read (token :: rest) = loop.turn read (token :: rest) := by
  cases loop with
  | chain level left =>
    cases joins : level.operator? token with
    | none =>
      simp only [turn, joins]
      exact readChain_stop left (by simpa using joins)
    | some combine =>
      simp only [turn, joins]
      exact readChain_step left rest joins
  | access target =>
    unfold turn
    dsimp only
    split
    · next isDot => exact readAccess_dot target rest isDot
    · split
      · next opens => exact readAccess_open target rest opens
      · next notDot notOpen => exact readAccess_stop target (by simp [notDot, notOpen])
  | arguments => exact readMoreArguments_eq _
  | items => exact readItems_cons token rest
  | entries => exact readEntries_cons token rest

end Loop

/-- What the parser does with the tokens before the end. -/
structure Sound (finish : Token) (tokens : List Token) : Prop where
  level : ∀ level, Takes finish (readLevel level) tokens (Derives (.level level))
  operand : ∀ level, Takes finish (readOperand level) tokens (Derives (operand level))
  unary : Takes finish readUnary tokens (Derives .unary)
  accessed : Takes finish readAccessed tokens (Derives .accessed)
  primary : Takes finish readPrimary tokens (Derives .primary)
  arguments : Takes finish readArguments tokens (Closed expressions Separated .closeParen)
  loop : ∀ {α : Type} (loop : Loop α), Takes finish loop.read tokens loop.Good
  turn : ∀ {α : Type} (again : Loop α → Reader α),
    Later tokens (fun rest => ∀ next : Loop α, Takes finish (again next) rest next.Good) →
      ∀ loop : Loop α, Takes finish (loop.turn again) tokens loop.Good

/-! ## Readers one after the other -/

section Steps

variable {finish token : Token} {tokens rest : List Token} {α β : Type}
  {reader other yes : Reader α} {good : List Token → α → Prop} {good' : List Token → β → Prop}

namespace Takes

theorem of_eq (takes : Takes finish other tokens good) (same : ∀ beyond,
      reader (tokens ++ finish :: beyond) = other (tokens ++ finish :: beyond)) :
    Takes finish reader tokens good := by
  cases takes with
  | fails what listed same' =>
    exact .fails what listed fun beyond => (same beyond).trans (same' beyond)
  | takes whole holds same' =>
    exact .takes whole holds fun beyond => (same beyond).trans (same' beyond)

/-- What a reader does at the token that comes first. -/
theorem stay (takes : Takes finish other tokens good) (same : ∀ rest,
      reader (tokens.headD finish :: rest) = other (tokens.headD finish :: rest)) :
    Takes finish reader tokens good :=
  takes.of_eq fun beyond => by cases tokens <;> exact same _

/-- What a reader does after the token that comes first. -/
theorem advance (takes : Takes finish other rest fun span => good (token :: span))
    (same : ∀ rest, reader (token :: rest) = other rest) :
    Takes finish reader (token :: rest) good := by
  cases takes with
  | fails what listed same' =>
    exact .fails what (mem_cons_of_mem _ listed) fun beyond => (same _).trans (same' beyond)
  | takes whole holds same' =>
    exact .takes (congrArg _ whole) holds fun beyond => (same _).trans (same' beyond)

theorem bind (next : α → Reader β) (first : Takes finish reader tokens good)
    (second : ∀ span rest value, tokens = span ++ rest → good span value →
      Takes finish (next value) rest fun span' => good' (span ++ span')) :
    Takes finish (fun tokens => reader tokens >>= fun found => next found.1 found.2)
    tokens good' := by
  cases first with
  | fails what listed same => exact .fails what listed fun beyond => by rw [same beyond]; rfl
  | @takes span rest value whole holds same =>
    have step (beyond : List Token) : (reader (tokens ++ finish :: beyond) >>= fun found =>
        next found.1 found.2) = next value (rest ++ finish :: beyond) := by
      rw [same beyond]
      rfl
    cases second span rest value whole holds with
    | fails what listed same' =>
      refine .fails what ?_ fun beyond => (step beyond).trans (same' beyond)
      rw [whole, append_assoc]
      exact mem_append_right _ listed
    | takes whole' holds' same' =>
      refine .takes ?_ holds' fun beyond => (step beyond).trans (same' beyond)
      rw [whole, whole', append_assoc]

theorem pure {value : α} (here : good [] value) :
    Takes finish (fun tokens => .ok (value, tokens)) tokens good :=
  .takes rfl here fun _ => rfl

theorem map (convert : α → β) (takes : Takes finish reader tokens good)
    (goes : ∀ span value, good span value → good' span (convert value)) :
    Takes finish (fun tokens => reader tokens >>= fun found =>
      .ok (convert found.1, found.2)) tokens
      good' :=
  takes.bind (fun value tokens => .ok (convert value, tokens)) fun span _ value _ holds =>
    .pure ((append_nil span).symm ▸ goes span value holds)

theorem mono (takes : Takes finish reader tokens good) {good' : List Token → α → Prop}
    (goes : ∀ span value, good span value → good' span value) :
    Takes finish reader tokens good' := by
  cases takes with
  | fails what listed same => exact .fails what listed same
  | takes whole holds same => exact .takes whole (goes _ _ holds) same

theorem fail (what : Expected) :
    Takes finish (fun tokens => .error (failure what tokens)) tokens good := by
  cases tokens <;> exact .fails what mem_cons_self fun _ => rfl

variable (isFinish : finish.kind = .finish)
include isFinish

/-- What a reader does that asks for a symbol. -/
theorem ite (symbol : Symbol) (taken : ∀ token rest, tokens = token :: rest →
      token.kind = .symbol symbol → Takes finish yes rest fun span => good (token :: span))
    (left : Takes finish other tokens good) (same : ∀ token rest, reader (token :: rest) =
      if token.isSymbol symbol then yes rest else other (token :: rest)) :
    Takes finish reader tokens good := by
  cases tokens with
  | nil =>
    refine left.stay fun rest => (same _ rest).trans (if_neg ?_)
    simp [Token.isSymbol, isFinish]
  | cons token rest =>
    by_cases is : token.isSymbol symbol = true
    · exact (taken token rest rfl (isSymbol_iff.1 is)).advance fun rest =>
        (same token rest).trans (if_pos is)
    · exact left.stay fun rest => (same token rest).trans (if_neg is)

end Takes

end Steps

/-! ## First tokens -/

section First

variable {stratum : Stratum} {span : List Token} {tree : Expr}

/-- A token can start a primary expression. -/
def Primes (token : Token) : Prop :=
  match token.kind with
  | .symbol symbol => symbol = .openParen ∨ symbol = .openBracket ∨ symbol = .openBrace
  | .finish => False
  | _ => True

/-- A token can start an expression of a stratum. -/
def Starts : Stratum → Token → Prop
  | .primary, token => Primes token
  | .accessed, token => Primes token
  | _, token => Primes token ∨ ∃ sign, Sign.ofToken? token = some sign

theorem starts_of_derives (derivation : Derives stratum span tree) :
    ∃ token more, span = token :: more ∧ Starts stratum token := by
  induction derivation with
  | @operand level span tree only ih =>
    obtain ⟨token, more, rfl, starts⟩ := ih
    exact ⟨token, more, rfl, by cases level <;> exact starts⟩
  | join first spells last ih =>
    obtain ⟨token, more, rfl, starts⟩ := ih
    exact ⟨token, _, rfl, starts⟩
  | @signed sign token span tree spells inner ih =>
    exact ⟨token, span, rfl, .inr ⟨sign, sign_spells_iff.2 spells⟩⟩
  | unsigned inner ih =>
    obtain ⟨token, more, rfl, starts⟩ := ih
    exact ⟨token, more, rfl, .inl starts⟩
  | base inner ih => exact ih
  | member _ _ _ ih | index _ _ _ _ ih =>
    obtain ⟨token, more, rfl, starts⟩ := ih
    exact ⟨token, _, rfl, starts⟩
  | integer kind | decimal kind | string kind | keyword kind | name kind | call kind | group kind
  | list kind | object kind => exact ⟨_, _, rfl, by simp [Starts, Primes, kind]⟩

theorem not_finish_of_spells {token : Token} {text : Text} (spells : Spells token text) :
    token.kind ≠ .finish := by
  cases spells with
  | symbol kind => simp [kind]
  | member kind => simp [kind]

theorem ne_nil_of_derives (derivation : Derives stratum span tree) : span ≠ [] := by
  obtain ⟨token, more, rfl, -⟩ := starts_of_derives derivation
  nofun

end First

/-! ## Every reader -/

section Readers

variable {finish : Token} {tokens : List Token} {α : Type} (isFinish : finish.kind = .finish)
include isFinish

theorem readSymbol_takes (symbol : Symbol) :
    Takes finish (readSymbol symbol) tokens fun span _ =>
      ∃ token : Token, span = [token] ∧ token.kind = .symbol symbol :=
  .ite isFinish symbol (fun token _ _ kind => .pure ⟨token, rfl, kind⟩) (.fail (.symbol symbol))
    (readSymbol_cons symbol)

theorem enclosed_takes {β : Type} {good : List Token → Expr → Prop} {good' : List Token → β → Prop}
    {reader : Reader Expr} (closing : Symbol) (next : Expr → Reader β)
    (inner : Takes finish reader tokens good)
    (goes : ∀ span rest tree token, tokens = span ++ token :: rest → good span tree →
      token.kind = .symbol closing →
        Takes finish (next tree) rest fun span' => good' (span ++ token :: span')) :
    Takes finish (fun tokens => reader tokens >>= fun inner =>
      readSymbol closing inner.2 >>= fun closed => next inner.1 closed.2) tokens good' := by
  refine .bind (fun tree tokens => readSymbol closing tokens >>= fun closed => next tree closed.2)
    inner fun span rest tree whole holds => ?_
  refine .bind (fun _ => next tree) (readSymbol_takes isFinish closing) ?_
  rintro _ rest' _ rfl ⟨token, rfl, closes⟩
  simpa only [append_assoc, singleton_append] using goes span rest' tree token whole holds closes

variable (later : Later tokens (Sound finish))

section Later

include later

theorem readPrimary_takes : Takes finish readPrimary tokens (Derives .primary) := by
  cases tokens with
  | nil =>
    refine .stay (.fail .value) fun rest => ?_
    rw [headD_nil, readPrimary_cons]
    simp only [isFinish]
  | cons token rest =>
    have next := later.tail
    have equation := readPrimary_cons token
    generalize kind : token.kind = found at equation
    cases found with
    | integer value => exact .advance (.pure (.integer kind)) equation
    | decimal value => exact .advance (.pure (.decimal kind)) equation
    | string value => exact .advance (.pure (.string kind)) equation
    | finish => exact .stay (.fail .value) equation
    | word =>
      dsimp only at equation
      cases keyword : keywordLiteral? token.text with
      | some value =>
        simp only [keyword] at equation
        exact .advance (.pure (.keyword kind (keywordLiteral?_iff.1 keyword))) equation
      | none =>
        have free := keywordLiteral?_eq_none_iff.1 keyword
        simp only [keyword] at equation
        refine .advance (.ite isFinish .openParen (fun paren more same opens => ?_)
          (.pure (.name kind free)) fun _ _ => rfl) equation
        have behind := later [token, paren] more (congrArg _ same) (cons_ne_nil _ _)
        refine behind.arguments.map (Expr.call _) ?_
        rintro _ _ ⟨parts, inner, closing, rfl, closes, separated, each, rfl⟩
        exact .call kind free opens separated each closes
    | symbol symbol =>
      cases symbol with
      | openParen =>
        refine .advance (enclosed_takes isFinish .closeParen
          (fun inner tokens => .ok (inner, tokens))
          (next.level .or) ?_) equation
        exact fun span rest tree closing _ derivation closes =>
          .pure (.group kind derivation closes)
      | openBracket =>
        refine .advance ((next.loop .items).map Expr.list ?_) equation
        rintro _ _ ⟨parts, inner, closing, rfl, closes, trailed, each, rfl⟩
        exact .list kind trailed each closes
      | openBrace =>
        refine .advance ((next.loop .entries).map Expr.object ?_) equation
        rintro _ _ ⟨entries, inner, closing, rfl, closes, trailed, each, rfl⟩
        exact .object kind trailed (fun entry listed => (each entry listed).1)
          (fun entry listed => (each entry listed).2) closes
      | _ => exact .stay (.fail .value) equation

theorem readAccessed_takes : Takes finish readAccessed tokens (Derives .accessed) := by
  have same : readAccessed = _ := funext readAccessed_eq
  rw [same]
  refine .bind readAccess (readPrimary_takes isFinish later) fun span rest target whole found => ?_
  exact ((later span rest whole (ne_nil_of_derives found)).loop (.access target)).mono
    fun span' tree continues => continues span (.base found)

theorem readUnary_takes : Takes finish readUnary tokens (Derives .unary) := by
  cases sign : Sign.ofToken? (tokens.headD finish) with
  | none =>
    exact ((readAccessed_takes isFinish later).mono fun _ _ => .unsigned).stay fun rest =>
      readUnary_unsigned rest sign
  | some found =>
    cases tokens with
    | nil => simp [Sign.ofToken?, isFinish] at sign
    | cons token rest =>
      refine .advance (later.tail.unary.map _ ?_) fun rest => readUnary_signed rest sign
      exact fun span tree derivation => .signed (sign_spells_iff.1 sign) derivation

omit isFinish in
theorem readLevel_of_operand {level : Level}
    (first : Takes finish (readOperand level) tokens (Derives (operand level))) :
    Takes finish (readLevel level) tokens (Derives (.level level)) := by
  have same : readLevel level = _ := funext (readLevel_eq level)
  rw [same]
  refine .bind (readChain level) first fun span rest left whole found => ?_
  exact ((later span rest whole (ne_nil_of_derives found)).loop (.chain level left)).mono
    fun span' tree continues => continues span (.operand found)

theorem readOperand_takes (level : Level) :
    Takes finish (readOperand level) tokens (Derives (operand level)) := by
  have same : readOperand level = _ := funext (readOperand_eq level)
  rw [same]
  cases level with
  | mul => exact readUnary_takes isFinish later
  | or => exact readLevel_of_operand later (readOperand_takes .and)
  | and => exact readLevel_of_operand later (readOperand_takes .compare)
  | compare => exact readLevel_of_operand later (readOperand_takes .add)
  | add => exact readLevel_of_operand later (readOperand_takes .mul)
termination_by level.rank
decreasing_by all_goals decide

theorem readLevel_takes (level : Level) :
    Takes finish (readLevel level) tokens (Derives (.level level)) :=
  readLevel_of_operand later (readOperand_takes isFinish later level)

end Later

/-! ## Turns -/

theorem afterItem_takes {ι β : Type} (items : Items ι β) (part : ι) {closing : Symbol}
    {arranged : List (List Token) → List Token → Prop} {again : Reader (List β)}
    (last : ∀ span, arranged [span] span)
    (more : ∀ {span spans tokens comma}, comma.kind = .symbol .comma → arranged spans tokens →
      arranged (span :: spans) (span ++ comma :: tokens)) (holds : items.holds part)
    (goes : ∀ comma rest, tokens = comma :: rest →
      Takes finish again rest (Closed items arranged closing)) :
    Takes finish (afterItem closing again (items.value part)) tokens fun span =>
      Closed items arranged closing (items.span part ++ span) := by
  refine .ite isFinish .comma (fun comma rest same isComma => ?_)
    ((readSymbol_takes isFinish closing).map (fun _ => [items.value part]) ?_) fun _ _ => rfl
  · refine (goes comma rest same).map (items.value part :: ·) ?_
    rintro _ _ ⟨parts, inner, token, rfl, closes, arranged, each, rfl⟩
    exact ⟨part :: parts, items.span part ++ comma :: inner, token, by simp, closes,
      more isComma arranged, forall_mem_cons.2 ⟨holds, each⟩, rfl⟩
  · rintro _ _ ⟨token, rfl, closes⟩
    exact ⟨[part], items.span part, token, rfl, closes, last _, forall_mem_singleton.2 holds, rfl⟩

omit isFinish in
theorem Separated.cons {spans : List (List Token)} {span : List Token} {comma : Token}
    (isComma : comma.kind = .symbol .comma) (some : spans ≠ []) (later : Separated spans tokens) :
    Separated (span :: spans) (span ++ comma :: tokens) := by
  cases spans with
  | nil => exact absurd rfl some
  | cons next spans => exact .more isComma later

include later

theorem turn_takes {again : Loop α → Reader α}
    (goes : Later tokens fun rest => ∀ next : Loop α, Takes finish (again next) rest next.Good)
    (loop : Loop α) : Takes finish (loop.turn again) tokens loop.Good := by
  have next {span rest rest' : List Token} {comma : Token} (whole : tokens = span ++ rest)
      (same : rest = comma :: rest') (loop : Loop α) : Takes finish (again loop) rest' loop.Good :=
    goes (span ++ [comma]) rest' (by rw [whole, same, append_cons]) (by simp) loop
  cases loop with
  | chain level left =>
    cases joins : level.operator? (tokens.headD finish) with
    | none =>
      exact .stay (.pure fun before found => (append_nil before).symm ▸ found) fun rest => by
        simp only [Loop.turn, joins]
    | some combine =>
      obtain ⟨operator, rfl, spells, rfl⟩ := operator?_eq_some joins
      cases tokens with
      | nil => exact absurd isFinish (not_finish_of_spells spells)
      | cons token rest =>
        rw [headD_cons] at joins spells
        refine .advance (.bind (fun right =>
          again (.chain operator.level (operator.apply left right)))
          (later.tail.operand operator.level) fun span rest' right whole found => ?_)
          fun rest => by simp only [Loop.turn, joins]
        refine (goes (token :: span) rest' (congrArg _ whole) (cons_ne_nil _ _) (.chain _ _)).mono
          fun span' tree continues before given => ?_
        simpa using continues _ (.join given spells found)
  | access target =>
    have ends : Continued .accessed target [] target := fun before found =>
      (append_nil before).symm ▸ found
    cases tokens with
    | nil => exact .stay (.pure ends) fun rest => by simp [Loop.turn, Token.isSymbol, isFinish]
    | cons token rest =>
      by_cases dot : token.isSymbol .dot = true
      · refine .advance ?_ fun rest => if_pos dot
        cases rest with
        | nil => exact .stay (.fail .fieldName) fun rest => dif_neg (by simp [isFinish])
        | cons field rest =>
          by_cases word : field.kind = .word
          · have again := goes [token, field] rest rfl (cons_ne_nil _ _)
            refine .advance ((again (.access _)).mono ?_) fun rest => dif_pos word
            intro span tree continues before given
            simpa using continues _ (.member given (isSymbol_iff.1 dot) word)
          · exact .stay (.fail .fieldName) fun rest => dif_neg word
      · by_cases opens : token.isSymbol .openBracket = true
        · refine .advance (enclosed_takes isFinish .closeBracket
            (fun inner => again (.access (.index target inner)))
            (later.tail.level .or) fun span rest' tree closing whole found closes =>
              ?_) fun rest => (if_neg dot).trans (if_pos opens)
          have again := goes (token :: span ++ [closing]) rest' (by simp [whole]) (cons_ne_nil _ _)
          refine (again (.access _)).mono fun span' tree continues before given => ?_
          simpa using continues _ (.index given (isSymbol_iff.1 opens) found closes)
        · exact .stay (.pure ends) fun rest => (if_neg dot).trans (if_neg opens)
  | arguments =>
    refine .stay (.bind (afterItem .closeParen (again .arguments))
      (readLevel_takes isFinish later .or) fun span rest tree whole found => ?_) fun _ => rfl
    exact afterItem_takes isFinish expressions (span, tree) (fun _ => ⟨by simp, .one⟩)
      (fun isComma joined => ⟨by simp, joined.2.cons isComma joined.1⟩) found
      fun comma rest' same => next whole same .arguments
  | items =>
    refine .ite isFinish .closeBracket
      (fun token _ _ closes => .pure ⟨[], [], token, rfl, closes, .none, forall_mem_nil _, rfl⟩)
      (.bind (afterItem .closeBracket (again .items)) (readLevel_takes isFinish later .or)
        fun span rest tree whole found => ?_) fun _ _ => rfl
    exact afterItem_takes isFinish expressions (span, tree) (fun _ => .last) .more found
      fun comma rest' same => next whole same .items
  | entries =>
    cases tokens with
    | nil =>
      refine .stay (.fail .objectKey) fun rest => ?_
      simp [Loop.turn, Token.isSymbol, objectKey?, isFinish]
    | cons token rest =>
      by_cases closes : token.isSymbol .closeBrace = true
      · refine .advance (.pure ?_) fun rest => if_pos closes
        exact ⟨[], [], token, rfl, isSymbol_iff.1 closes, .none, forall_mem_nil _, rfl⟩
      · cases named : objectKey? token with
        | none =>
          exact .stay (.fail .objectKey) fun rest =>
            (if_neg closes).trans (by simp only [headD_cons, named])
        | some key =>
          by_cases empty : key.isEmpty = true
          · exact .advance (.fail .nonEmptyKey) fun rest =>
              (if_neg closes).trans (by simp only [named, if_pos empty])
          · refine .advance (.bind (fun _ tokens => readLevel .or tokens >>= fun value =>
              afterItem .closeBrace (again .entries) (key, value.1) value.2)
              (readSymbol_takes isFinish .colon) ?_) fun rest =>
                (if_neg closes).trans (by simp only [named, if_neg empty])
            rintro _ rest' _ rfl ⟨colon, rfl, isColon⟩
            refine .bind (fun value => afterItem .closeBrace (again .entries) (key, value))
              ((later [token, colon] rest' rfl (cons_ne_nil _ _)).level .or)
              fun span more value whole found => ?_
            exact afterItem_takes isFinish pairs ⟨token, key, colon, span, value⟩ (fun _ => .last)
              .more ⟨⟨objectKey?_names named empty, isColon⟩, found⟩ fun comma rest' same =>
                next (show _ = token :: colon :: span ++ _ by rw [whole]; rfl) same .entries

theorem loop_takes (loop : Loop α) : Takes finish loop.read tokens loop.Good :=
  (turn_takes isFinish later (fun span rest whole some =>
    (later span rest whole some).loop) loop).stay
    (loop.read_cons _)

theorem readArguments_takes :
    Takes finish readArguments tokens (Closed expressions Separated .closeParen) := by
  refine .ite isFinish .closeParen
    (fun token _ _ closes => .pure ⟨[], [], token, rfl, closes, .none, nofun, rfl⟩)
    ((loop_takes isFinish later .arguments).mono ?_) readArguments_cons
  rintro _ _ ⟨parts, inner, token, whole, closes, ⟨-, separated⟩, each, rfl⟩
  exact ⟨parts, inner, token, whole, closes, separated, each, rfl⟩

end Readers

/-- **What readers take**, by induction on how many tokens there are. -/
theorem sound {finish : Token} (isFinish : finish.kind = .finish) (tokens : List Token) :
    Sound finish tokens :=
  have later : Later tokens (Sound finish) := fun span rest whole some =>
    have : rest.length < tokens.length := by
      rw [whole, length_append]
      exact Nat.lt_add_of_pos_left (length_pos_iff.2 some)
    sound isFinish rest
  { level := readLevel_takes isFinish later
    operand := readOperand_takes isFinish later
    unary := readUnary_takes isFinish later
    accessed := readAccessed_takes isFinish later
    primary := readPrimary_takes isFinish later
    arguments := readArguments_takes isFinish later
    loop := loop_takes isFinish later
    turn := fun _ goes => turn_takes isFinish later goes }
termination_by tokens.length

/-! ## The whole parser -/

theorem parseTokens_eq (tokens : List Token) :
    parseTokens tokens = if (peek tokens).kind = .finish then .error .empty
      else readLevel .or tokens >>= fun found =>
        if (peek found.2).kind = .finish then .ok found.1 else .error
        (failure .finish found.2) := by
  simp only [parseTokens, readLevel]
  split
  · rfl
  · cases parseLevel .or tokens <;> rfl

/-- A reader has taken at least one token. -/
def Proper {α : Type} (span : List Token) (_ : α) : Prop := span ≠ []

theorem Closed.proper {ι α : Type} {items : Items ι α} {closing : Symbol} {span : List Token}
    {arranged : List (List Token) → List Token → Prop} {values : List α}
    (closed : Closed items arranged closing span values) : Proper span values := by
  obtain ⟨_, inner, token, rfl, _⟩ := closed
  exact append_ne_nil_of_right_ne_nil _ nofun

/-- What holds of every procedure of the parser before the end.  A turn of a loop asks for the loop
again only at later places, whatever the loop would do at others. -/
structure Bounded (finish : Token) (tokens : List Token) : Prop where
  symbol : ∀ symbol, Takes finish (readSymbol symbol) tokens Proper
  level : ∀ level, Takes finish (readLevel level) tokens Proper
  operand : ∀ level, Takes finish (readOperand level) tokens Proper
  unary : Takes finish readUnary tokens Proper
  accessed : Takes finish readAccessed tokens Proper
  primary : Takes finish readPrimary tokens Proper
  arguments : Takes finish readArguments tokens Proper
  items : Takes finish readItems tokens Proper
  entries : Takes finish readEntries tokens Proper
  loop : ∀ {α : Type} (loop : Loop α), Takes finish loop.read tokens loop.Good
  turns : ∀ {α : Type} (loop : Loop α) (token : Token) (rest : List Token),
    loop.read (token :: rest) = loop.turn Loop.read (token :: rest)
  turn : ∀ {α : Type} (again : Loop α → Reader α),
    Later tokens (fun rest => ∀ next : Loop α, Takes finish (again next) rest next.Good) →
      ∀ loop : Loop α, Takes finish (loop.turn again) tokens loop.Good
  whole : ∀ beyond, parseTokens (tokens ++ finish :: beyond) = parseTokens (tokens ++ [finish])

/-- **The parser never runs past the end.**  Whatever tokens are left before the end, a procedure
comes to a result that does not depend on anything behind the end.  It fails at a token up to the
end, or it has taken at least one token and not the end; and every turn of a loop goes on at a later
place. -/
theorem parser_stays_before_end {finish : Token} (isFinish : finish.kind = .finish)
    (tokens : List Token) : Bounded finish tokens := by
  have before := sound isFinish tokens
  have proper {stratum : Stratum} (span : List Token) (tree : Expr)
      (found : Derives stratum span tree) : Proper span tree := ne_nil_of_derives found
  refine ⟨fun symbol => (readSymbol_takes isFinish symbol).mono ?_,
    fun level => (before.level level).mono proper, fun level => (before.operand level).mono proper,
    before.unary.mono proper, before.accessed.mono proper, before.primary.mono proper,
    before.arguments.mono fun _ _ => Closed.proper, (before.loop .items).mono fun _ _ =>
      Closed.proper,
    (before.loop .entries).mono fun _ _ => Closed.proper, before.loop, Loop.read_cons, before.turn,
    fun beyond => ?_⟩
  · rintro _ _ ⟨token, rfl, _⟩
    nofun
  · have head (tokens beyond : List Token) :
        peek (tokens ++ finish :: beyond) = tokens.headD finish := by cases tokens <;> rfl
    rw [parseTokens_eq, parseTokens_eq, head, head]
    cases before.level .or with
    | fails what listed same => rw [same, same]
    | @takes span rest value whole holds same =>
      rw [same, same]
      cases rest <;> rfl

theorem symbol_plain (symbol : Symbol) :
    Token.Kind.symbol symbol = .word → ∀ point ∈ symbol.text, point.isSurrogate = false := by
  intro same
  cases same

theorem f_plain :
    Token.Kind.word = .word → ∀ point ∈ Text.ofString "f", point.isSurrogate = false := by decide

/-- The tokens of a list that holds a call, which is given an object, which holds a list. -/
def nested : List Token :=
  let symbol (symbol : Symbol) (position : Nat) : Token :=
    ⟨.symbol symbol, symbol.text, position, symbol_plain symbol⟩
  [symbol .openBracket 0, ⟨.word, "f", 1, f_plain⟩, symbol .openParen 2, symbol .openBrace 3,
    ⟨.word, "f", 4, f_plain⟩, symbol .colon 5, symbol .openBracket 6, symbol .closeBracket 7,
    symbol .closeBrace 8, symbol .closeParen 9, symbol .closeBracket 10]

/-- The parser stays before the end whether or not the brackets are closed. -/
theorem nested_stays_before_end :
    Bounded (.finish 11) nested ∧ Bounded (.finish 8) (nested.take 8) :=
  ⟨parser_stays_before_end rfl _, parser_stays_before_end rfl _⟩

end AgentFlow.Expr.Grammar
