import AgentFlow.Proofs.Number.Shortest
import AgentFlow.Target.Lexer

/-!
# Numbers in generated text

The lexer reads back the numbers that generated text holds: the digits of a natural number, and the
text of a finite double.  A number is followed by the end of the text or by a character that can
stand after an operand.
-/

namespace AgentFlow.Target

open List
open Binary64 (ofDecimal layout isNaN toText isZero)
open Nat (ofDigitChars toDigits)

/-- What all characters of a list have is decided by the list, not by a search through all
characters. -/
instance (priority := 2000) decidableForallMem (chars : List Char) (property : Char → Prop)
    [DecidablePred property] : Decidable (∀ c ∈ chars, property c) :=
  List.decidableBAll property chars

/-! ## What follows an operand -/

/-- The characters that can stand after an operand. -/
def closers : List Char := [' ', '\n', ')', ']', '\x7d', ',', ':', '[', '(']

def closes : List Char → Bool
  | [] => true
  | c :: _ => c ∈ closers

theorem closes_cases {left : List Char} (closed : closes left = true) :
    left = [] ∨ ∃ c rest, left = c :: rest ∧ c ∈ closers := by
  cases left with
  | nil => exact .inl rfl
  | cons c rest => exact .inr ⟨c, rest, rfl, of_decide_eq_true closed⟩

theorem not_continuesName_of_closer : ∀ c ∈ closers, continuesName c = false := by decide

theorem not_isDigit_of_closer : ∀ c ∈ closers, c.isDigit = false := by decide

theorem not_mark_of_closer : ∀ c ∈ closers, c ∉ ['.', '_', 'e', 'E', 'j', 'J', '"', '\x27'] := by
  decide

variable {left digits fraction : List Char}

abbrev AreDigits (chars : List Char) : Prop := ∀ c ∈ chars, c.isDigit = true

theorem endsNumber_of_closes (closed : closes left = true) : endsNumber left = true := by
  rcases closes_cases closed with rfl | ⟨c, rest, rfl, member⟩
  · rfl
  · simp only [endsNumber, not_continuesName_of_closer c member, Bool.not_false, Bool.true_or]

/-! ## Runs of digits -/

/-- Whether a text does not go on with a run of digits. -/
def stopsRun : List Char → Bool
  | [] => true
  | c :: _ => !c.isDigit && c ≠ '_'

theorem stopsRun_of_closes (closed : closes left = true) : stopsRun left = true := by
  rcases closes_cases closed with rfl | ⟨c, rest, rfl, member⟩
  · rfl
  · have marks := not_mark_of_closer c member
    simp only [mem_cons, not_or] at marks
    simpa [stopsRun, not_isDigit_of_closer c member] using marks.2.1

theorem digitRun_digits (areDigits : AreDigits digits)
    (stopped : stopsRun left = true) :
    digitRun Char.isDigit (digits ++ left) = some (digits, left) := by
  induction digits with
  | nil =>
    cases left with
    | nil => rfl
    | cons c rest =>
      simp only [stopsRun, Bool.and_eq_true, Bool.not_eq_eq_eq_not, Bool.not_true, ne_eq,
        decide_not, decide_eq_false_iff_not] at stopped
      simp [digitRun, stopped.1, stopped.2]
  | cons c rest ih =>
    have head : c.isDigit = true := areDigits c mem_cons_self
    have tail := ih fun d member => areDigits d (mem_cons_of_mem _ member)
    rw [cons_append, digitRun.eq_def]
    simp only [head, if_true, tail, Option.map_some]

theorem numeralValue_digits (areDigits : AreDigits digits) :
    numeralValue 10 digits = ofDigitChars 10 digits 0 := by
  rw [numeralValue, Nat.ofDigitChars_eq_foldl]
  refine foldl_ext _ _ _ fun n c member => ?_
  rw [if_pos (areDigits c member), Nat.mul_comm]
  rfl

/-! ## The parts of a number -/

theorem fractionPart_none (absent : left.head? ≠ some '.') :
    fractionPart left = some (false, [], left) := by
  rw [fractionPart.eq_def]
  split
  · next rest => exact absurd rfl absent
  · rfl

theorem fractionPart_digits (some : fraction ≠ []) (areDigits : AreDigits fraction)
    (stopped : stopsRun left = true) :
    fractionPart ('.' :: (fraction ++ left)) = .some (true, fraction, left) := by
  obtain ⟨c, rest, rfl⟩ := exists_cons_of_ne_nil some
  have head : c.isDigit = true := areDigits c mem_cons_self
  rw [fractionPart]
  simp only [cons_append, headD_cons, head, if_true]
  rw [← cons_append, digitRun_digits areDigits stopped]
  rfl

theorem exponentPart_none (absent : ∀ c, left.head? = some c → c ≠ 'e' ∧ c ≠ 'E') :
    exponentPart left = some (none, left) := by
  cases left with
  | nil => rfl
  | cons c rest =>
    have differs := absent c rfl
    rw [exponentPart.eq_def]
    simp only [differs, or_self, if_false]

theorem exponentPart_digits (negative : Prop) [Decidable negative] (some : digits ≠ [])
    (areDigits : AreDigits digits) (stopped : stopsRun left = true) :
    exponentPart ('e' :: (if negative then '-' else '+') :: (digits ++ left)) =
      .some (.some (if negative then -(numeralValue 10 digits : Int) else numeralValue 10 digits),
        left) := by
  obtain ⟨c, rest, rfl⟩ := exists_cons_of_ne_nil some
  have head : c.isDigit = true := areDigits c mem_cons_self
  have run := digitRun_digits areDigits stopped
  simp only [cons_append] at run
  rw [exponentPart.eq_def]
  split_ifs <;> simp [head, run]

theorem parts_of_closes (closed : closes left = true) :
    fractionPart left = some (false, [], left) ∧ exponentPart left = some (none, left) := by
  rcases closes_cases closed with rfl | ⟨d, others, rfl, member⟩
  · exact ⟨rfl, rfl⟩
  · have marks := not_mark_of_closer d member
    simp only [mem_cons, not_or] at marks
    refine ⟨fractionPart_none fun equal => marks.1 (Option.some.inj equal), ?_⟩
    exact exponentPart_none fun c equal => Option.some.inj equal ▸ ⟨marks.2.2.1, marks.2.2.2.1⟩

variable {point : Bool} {exponent : Option Int} {whole : List Char}

theorem decimalNumber_parts {after middle : List Char} (some : digits ≠ [])
    (areDigits : AreDigits digits) (stopped : stopsRun after = true)
    (fractional : fractionPart after = .some (point, fraction, middle))
    (exponential : exponentPart middle = .some (exponent, left)) (closed : closes left = true) :
    decimalNumber (digits ++ after) =
      decimalNumber.plain digits point exponent
        (ofDecimal false (numeralValue 10 (digits ++ fraction))
          (exponent.getD 0 - fraction.length)) left := by
  obtain ⟨c, rest, rfl⟩ := exists_cons_of_ne_nil some
  have head : c.isDigit = true := areDigits c mem_cons_self
  have run := digitRun_digits areDigits stopped
  simp only [decimalNumber, cons_append, headD_cons, head, if_true] at run ⊢
  rw [run]
  simp only [Option.bind_eq_bind, Option.bind_some, fractional, exponential]
  rcases closes_cases closed with rfl | ⟨d, others, rfl, member⟩
  · rfl
  · have marks := not_mark_of_closer d member
    simp only [mem_cons, not_or] at marks
    simp only [marks, or_self, if_false, cons_append]

/-! ## Reading written numbers -/

def isNumeric (c : Char) : Bool := c.isDigit || c ∈ ['.', 'e', '+', '-']

theorem isNumeric_of_isDigit {c : Char} (digit : c.isDigit = true) : isNumeric c = true := by
  rw [isNumeric, digit, Bool.true_or]

/-- The letters that mark another base do not occur in or after written numbers. -/
theorem unusual_of_base :
    ∀ c ∈ ['x', 'X', 'o', 'O', 'b', 'B'], isNumeric c = false ∧ c ∉ closers := by decide

theorem readNumber_numeric (some : digits ≠ []) (numeric : ∀ c ∈ digits, isNumeric c = true)
    (closed : closes left = true) :
    readNumber (digits ++ left) = decimalNumber (digits ++ left) := by
  obtain ⟨c, rest, rfl⟩ := exists_cons_of_ne_nil some
  have usual (mark : Char) (here : (rest ++ left).head? = .some mark) :
      isNumeric mark = true ∨ mark ∈ closers := by
    cases rest with
    | nil =>
      rcases closes_cases closed with rfl | ⟨d, others, rfl, closer⟩
      · cases here
      · exact .inr (Option.some.inj here ▸ closer)
    | cons d others =>
      exact .inl (numeric mark (Option.some.inj here ▸ mem_cons_of_mem c mem_cons_self))
  rw [readNumber.eq_def]
  split
  · next mark others equal =>
      rw [cons_append, List.cons.injEq] at equal
      have found := usual mark (by rw [equal.2]; rfl)
      have unmarked : mark ∉ ['x', 'X', 'o', 'O', 'b', 'B'] := by
        intro member
        obtain ⟨unusual, away⟩ := unusual_of_base mark member
        rcases found with numeral | closer
        · exact Bool.noConfusion (unusual.symm.trans numeral)
        · exact away closer
      simp only [mem_cons, not_or] at unmarked
      simp only [unmarked, or_self, if_false]
  · rfl

theorem toDigits_head {n : Nat} (pos : 0 < n) : (toDigits 10 n).head? ≠ some '0' := by
  induction n using Nat.strongRecOn with
  | ind n ih =>
    rcases Nat.lt_or_ge n 10 with small | large
    · rw [Nat.toDigits_of_lt_base small]
      intro zero
      have := Nat.digitChar_eq_zero.1 (Option.some.inj zero)
      omega
    · rw [Nat.toDigits_of_base_le (by decide) large,
        head?_append_of_ne_nil _ (ne_nil_of_length_pos Nat.length_toDigits_pos)]
      exact ih (n / 10) (by omega) (by omega)

theorem isDigit_toDigits (n : Nat) : AreDigits (toDigits 10 n) := fun _ member =>
  Nat.isDigit_of_mem_toDigits (b := 10) (by decide) (by decide) member

theorem toDigits_ne_nil (n : Nat) : toDigits 10 n ≠ [] :=
  ne_nil_of_length_pos Nat.length_toDigits_pos

theorem numeralValue_toDigits (n : Nat) : numeralValue 10 (toDigits 10 n) = n := by
  rw [numeralValue_digits (isDigit_toDigits n), Nat.ofDigitChars_ten_toDigits]

/-- **The digits of a natural number read back as it,** unless there are too many. -/
theorem readNumber_toDigits (n : Nat) (short : (toDigits 10 n).length ≤ Numeral.digitLimit)
    (closed : closes left = true) :
    readNumber (toDigits 10 n ++ left) = some (.int n, left) := by
  have areDigits := isDigit_toDigits n
  have numeric (c : Char) (member : c ∈ toDigits 10 n) : isNumeric c = true :=
    isNumeric_of_isDigit (areDigits c member)
  obtain ⟨fractional, exponential⟩ := parts_of_closes closed
  rw [readNumber_numeric (toDigits_ne_nil n) numeric closed,
    decimalNumber_parts (toDigits_ne_nil n) areDigits (stopsRun_of_closes closed) fractional
      exponential closed]
  simp only [decimalNumber.plain, endsNumber_of_closes closed, Bool.not_true, Bool.false_eq_true,
    if_false, Bool.false_or, Option.isSome_none]
  rcases Nat.eq_zero_or_pos n with rfl | pos
  · rfl
  · have leading := toDigits_head pos
    have notZeros : (toDigits 10 n).all (· = '0') = false := by
      obtain ⟨c, rest, equal⟩ := exists_cons_of_ne_nil (toDigits_ne_nil n)
      rw [equal] at leading ⊢
      simp only [all_cons, Bool.and_eq_false_iff, decide_eq_false_iff_not]
      exact .inl fun zero => leading (by rw [zero]; rfl)
    rw [notZeros, numeralValue_toDigits]
    simp [leading, Nat.not_lt.2 short]

/-! ## Reading written doubles -/

theorem plain_float (value : Binary64) (marked : (point || exponent.isSome) = true)
    (closed : closes left = true) :
    decimalNumber.plain whole point exponent value left = some (.float value, left) := by
  simp only [decimalNumber.plain, endsNumber_of_closes closed, Bool.not_true, Bool.false_eq_true,
    if_false, marked, if_true]

theorem isDigit_replicate (n : Nat) : AreDigits (List.replicate n '0') := by
  intro c member
  rw [eq_of_mem_replicate member]
  rfl

theorem decimalNumber_point (some : whole ≠ []) (some' : fraction ≠ [])
    (areDigits : AreDigits whole) (areDigits' : AreDigits fraction)
    (closed : closes left = true) :
    decimalNumber (whole ++ '.' :: (fraction ++ left)) =
      .some (.float (ofDecimal false (ofDigitChars 10 (whole ++ fraction) 0)
        (-(fraction.length : Int))), left) := by
  rw [decimalNumber_parts some areDigits (by rfl)
      (fractionPart_digits some' areDigits' (stopsRun_of_closes closed))
      (parts_of_closes closed).2 closed,
    plain_float _ rfl closed, numeralValue_digits (forall_mem_append.2 ⟨areDigits, areDigits'⟩)]
  simp

theorem ne_nil_of_pos (pos : 0 < ofDigitChars 10 digits 0) : digits ≠ [] := fun none => by
  rw [none] at pos
  cases pos

/-- What digits and the place of their point are written as reads back as the number they spell. -/
def ReadsBack (digits : List Char) (point : Int) (left : List Char) : Prop :=
  decimalNumber (layout digits point ++ left) =
    some (.float (ofDecimal false (ofDigitChars 10 digits 0) (point - digits.length)), left)

section Layout

variable {point : Int} (areDigits : AreDigits digits)
  (pos : 0 < ofDigitChars 10 digits 0) (closed : closes left = true)

include areDigits pos closed

/-- A number below one is written with zeros after the point. -/
theorem decimalNumber_small (low : -4 < point) (small : point ≤ 0) :
    ReadsBack digits point left := by
  have zeros := isDigit_replicate (-point).toNat
  have value : ofDigitChars 10 (['0'] ++ (List.replicate (-point).toNat '0' ++ digits)) 0 =
      ofDigitChars 10 digits 0 := by
    rw [Nat.ofDigitChars_append, Nat.ofDigitChars_append, Nat.ofDigitChars_replicate_zero]
    rfl
  have exponent : -((List.replicate (-point).toNat '0' ++ digits).length : Int) =
      point - digits.length := by
    rw [length_append, length_replicate]
    omega
  have read := decimalNumber_point (cons_ne_nil '0' [])
    (append_ne_nil_of_right_ne_nil _ (ne_nil_of_pos pos)) (by decide)
    (forall_mem_append.2 ⟨zeros, areDigits⟩) closed
  rw [value, exponent] at read
  rw [ReadsBack, layout, if_pos ⟨low, by omega⟩, if_pos small, ← read]
  simp

/-- A whole number is written with zeros before the point and one after it. -/
theorem decimalNumber_whole (positive : 0 < point) (high : point ≤ 16)
    (whole : digits.length ≤ point.toNat) :
    ReadsBack digits point left := by
  have zeros := isDigit_replicate (point.toNat - digits.length)
  have read := decimalNumber_point
    (append_ne_nil_of_left_ne_nil (ne_nil_of_pos pos) _) (cons_ne_nil '0' [])
    (forall_mem_append.2 ⟨areDigits, zeros⟩) (by decide) closed
  have value : ofDigitChars 10
      (digits ++ List.replicate (point.toNat - digits.length) '0' ++ ['0']) 0 =
        10 * (10 ^ (point.toNat - digits.length) * ofDigitChars 10 digits 0) := by
    rw [Nat.ofDigitChars_append, Nat.ofDigitChars_append, Nat.ofDigitChars_replicate_zero]
    rfl
  have same : ofDecimal false
      (10 * (10 ^ (point.toNat - digits.length) * ofDigitChars 10 digits 0)) (-1) =
        ofDecimal false (ofDigitChars 10 digits 0) (point - digits.length) := by
    refine Binary64.ofDecimal_congr false (by positivity) pos ?_
    have exponent : point - digits.length = ((point.toNat - digits.length : Nat) : Int) := by omega
    rw [exponent, zpow_natCast]
    push_cast
    field_simp
  rw [value, length_singleton, Nat.cast_one, same] at read
  rw [ReadsBack, layout, if_pos ⟨by omega, high⟩, if_neg (by omega), take_of_length_le whole,
    drop_eq_nil_of_le whole, ← read]
  simp

/-- Another number of moderate size has its point between its digits. -/
theorem decimalNumber_mixed (positive : 0 < point) (high : point ≤ 16)
    (mixed : point.toNat < digits.length) :
    ReadsBack digits point left := by
  have before : digits.take point.toNat ≠ [] := by
    rw [Ne, take_eq_nil_iff, not_or]
    exact ⟨by omega, ne_nil_of_pos pos⟩
  have after : digits.drop point.toNat ≠ [] := by
    rw [Ne, drop_eq_nil_iff]
    omega
  have read := decimalNumber_point before after
    (fun c member => areDigits c (mem_of_mem_take member))
    (fun c member => areDigits c (mem_of_mem_drop member)) closed
  have exponent : -((digits.drop point.toNat).length : Int) = point - digits.length := by
    rw [length_drop]
    omega
  have padding : point.toNat - (digits.take point.toNat).length = 0 := by
    rw [length_take]
    omega
  rw [take_append_drop, exponent] at read
  rw [ReadsBack, layout, if_pos ⟨by omega, high⟩, if_neg (by omega), ← read]
  simp only [padding, List.isEmpty_iff, after]
  simp

/-- A number that is very large or very small is written with an exponent. -/
theorem decimalNumber_scientific (outside : ¬(-4 < point ∧ point ≤ 16)) :
    ReadsBack digits point left := by
  obtain ⟨first, rest, rfl⟩ := exists_cons_of_ne_nil (ne_nil_of_pos pos)
  have single : AreDigits [first] :=
    forall_mem_singleton.2 (areDigits first mem_cons_self)
  have others : AreDigits rest := fun c member => areDigits c (mem_cons_of_mem first member)
  rw [ReadsBack, layout, if_neg outside]
  simp only [take_succ_cons, take_zero, drop_succ_cons, drop_zero,
    append_assoc, cons_append, nil_append]
  obtain ⟨power, shifted⟩ : ∃ power, power = List.replicate
      (2 - (toDigits 10 (point - 1).natAbs).length) '0' ++ toDigits 10 (point - 1).natAbs :=
    ⟨_, rfl⟩
  have powerDigits : AreDigits power :=
    shifted ▸ forall_mem_append.2 ⟨(isDigit_replicate _), (isDigit_toDigits _)⟩
  have powerValue : numeralValue 10 power = (point - 1).natAbs := by
    rw [numeralValue_digits powerDigits, shifted, Nat.ofDigitChars_append,
      Nat.ofDigitChars_replicate_zero, Nat.mul_zero, Nat.ofDigitChars_ten_toDigits]
  have exponential := exponentPart_digits (point - 1 < 0)
    (shifted ▸ append_ne_nil_of_right_ne_nil _ (toDigits_ne_nil _)) powerDigits
    (stopsRun_of_closes closed)
  have signed : (if point - 1 < 0 then -((point - 1).natAbs : Int) else (point - 1).natAbs) =
      point - 1 := by
    split <;> omega
  rw [powerValue, signed] at exponential
  rw [← append_assoc, ← shifted]
  generalize (if point - 1 < 0 then '-' else '+') = sign at *
  cases rest with
  | nil =>
    rw [if_pos (by simp), nil_append, ← singleton_append,
      decimalNumber_parts (cons_ne_nil first []) single (by rfl)
        (fractionPart_none (by simp)) exponential closed,
      plain_float _ rfl closed, append_nil, numeralValue_digits single]
    simp
  | cons second third =>
    rw [if_neg (by simp), cons_append, ← singleton_append,
      decimalNumber_parts (cons_ne_nil first []) single (by rfl)
        (fractionPart_digits (cons_ne_nil second third) others (by rfl)) exponential closed,
      plain_float _ rfl closed, singleton_append, numeralValue_digits areDigits]
    have exponent : (some (point - 1)).getD 0 - ((second :: third).length : Int) =
        point - (first :: second :: third).length := by
      simp only [Option.getD_some, length_cons, Nat.cast_add, Nat.cast_one]
      omega
    rw [exponent]

/-- **The layout of digits reads back as the number that they spell.** -/
theorem decimalNumber_layout (point : Int) :
    decimalNumber (layout digits point ++ left) =
      some (.float (ofDecimal false (ofDigitChars 10 digits 0)
        (point - digits.length)), left) := by
  by_cases inside : -4 < point ∧ point ≤ 16
  · obtain ⟨low, high⟩ := inside
    rcases Int.lt_or_le 0 point with positive | small
    · rcases Nat.lt_or_ge point.toNat digits.length with mixed | whole
      · exact decimalNumber_mixed areDigits pos closed positive high mixed
      · exact decimalNumber_whole areDigits pos closed positive high whole
    · exact decimalNumber_small areDigits pos closed low small
  · exact decimalNumber_scientific areDigits pos closed inside

end Layout

theorem isNumeric_layout (areDigits : AreDigits digits) (point : Int) :
    ∀ c ∈ layout digits point, isNumeric c = true := by
  have numeric : ∀ c ∈ digits, isNumeric c = true := fun c member =>
    isNumeric_of_isDigit (areDigits c member)
  have taken (n : Nat) : ∀ c ∈ digits.take n, isNumeric c = true := fun c member =>
    numeric c (mem_of_mem_take member)
  have dropped (n : Nat) : ∀ c ∈ digits.drop n, isNumeric c = true := fun c member =>
    numeric c (mem_of_mem_drop member)
  have zeros (n : Nat) : ∀ c ∈ List.replicate n '0', isNumeric c = true := fun c member =>
    isNumeric_of_isDigit (isDigit_replicate n c member)
  have power (n : Nat) : ∀ c ∈ toDigits 10 n, isNumeric c = true := fun c member =>
    isNumeric_of_isDigit (isDigit_toDigits n c member)
  rw [layout]
  split
  · split
    · simp only [forall_mem_append, forall_mem_cons]
      exact ⟨⟨rfl, rfl, zeros _⟩, numeric⟩
    · simp only [forall_mem_append, forall_mem_cons]
      refine ⟨⟨taken _, zeros _⟩, rfl, ?_⟩
      split
      · exact zeros 1
      · exact dropped _
  · simp only [forall_mem_append, forall_mem_cons]
    refine ⟨⟨taken _, ?_⟩, rfl, ?_, zeros _, power _⟩
    · split
      · exact nofun
      · exact forall_mem_cons.2 ⟨rfl, dropped _⟩
    · split <;> rfl

theorem layout_head (areDigits : AreDigits digits) (some : digits ≠ [])
    (point : Int) : ∃ c rest, layout digits point = c :: rest ∧ c.isDigit = true := by
  obtain ⟨first, rest, rfl⟩ := exists_cons_of_ne_nil some
  have digit := areDigits first mem_cons_self
  rw [layout]
  split
  · split
    · exact ⟨'0', _, rfl, rfl⟩
    · obtain ⟨n, count⟩ : ∃ n, point.toNat = n + 1 := ⟨point.toNat - 1, by omega⟩
      rw [count]
      exact ⟨first, _, rfl, digit⟩
  · exact ⟨first, _, rfl, digit⟩

def doubleChars (x : Binary64) : List Char :=
  if x.isZero then ['0', '.', '0'] else layout x.shortestDigits.1 x.shortestDigits.2

variable {x : Binary64}

theorem toText_eq (finite : x.isFinite = true) :
    x.toText = Text.ofChars (if x.negative then '-' :: doubleChars x else doubleChars x) := by
  have number : x.isNaN = false := by
    simp only [Binary64.isFinite, ne_eq, decide_not, Bool.not_eq_eq_eq_not, Bool.not_true,
      decide_eq_false_iff_not] at finite
    simp [isNaN, finite]
  unfold toText doubleChars
  -- for any digits, since those of `x` would be computed to compare them
  generalize x.shortestDigits = written
  obtain ⟨digits, point⟩ := written
  simp only [number, finite, Bool.false_eq_true, if_false, Bool.not_true]
  cases x.isZero <;> cases x.negative <;> rfl

theorem doubleChars_spec (finite : x.isFinite = true) :
    ∃ c rest, doubleChars x = c :: rest ∧ c.isDigit = true ∧
      ∀ d ∈ c :: rest, isNumeric d = true := by
  rw [doubleChars]
  cases zero : x.isZero with
  | true => exact ⟨'0', ['.', '0'], rfl, rfl, by decide⟩
  | false =>
    obtain ⟨areDigits, pos, _⟩ := Binary64.shortestDigits_spec finite zero
    rw [if_neg Bool.false_ne_true]
    generalize x.shortestDigits = written at *
    obtain ⟨c, rest, starts, digit⟩ := layout_head areDigits (ne_nil_of_pos pos) written.2
    exact ⟨c, rest, starts, digit, starts ▸ isNumeric_layout areDigits written.2⟩

/-- **The text of a finite double reads back as it,** apart from its sign. -/
theorem readNumber_doubleChars (finite : x.isFinite = true) (closed : closes left = true) :
    readNumber (doubleChars x ++ left) = some (.float x.unsigned, left) := by
  rw [doubleChars]
  cases zero : x.isZero with
  | true =>
    have read := decimalNumber_point (cons_ne_nil '0' []) (cons_ne_nil '0' [])
      (by decide) (by decide) closed
    rw [if_pos rfl, readNumber_numeric (cons_ne_nil _ _) (by decide) closed]
    refine read.trans ?_
    simp only [isZero, decide_eq_true_eq] at zero
    congr 3
    exact Binary64.eq_of_fields rfl zero.1.symm zero.2.symm
  | false =>
    obtain ⟨areDigits, pos, back⟩ := Binary64.shortestDigits_spec finite zero
    rw [if_neg Bool.false_ne_true]
    generalize x.shortestDigits = written at *
    obtain ⟨c, rest, starts, _⟩ := layout_head areDigits (ne_nil_of_pos pos) written.2
    rw [readNumber_numeric (starts ▸ cons_ne_nil c rest) (isNumeric_layout areDigits _)
        closed,
      decimalNumber_layout areDigits pos closed, ← Binary64.ofDecimal_unsigned x.negative, back]

end AgentFlow.Target
