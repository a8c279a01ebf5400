import AgentFlow.Proofs.Layout.Literal

/-!
# Values with one text

The text of a value determines the value, as long as its integers are short enough to be written.
No escape is the beginning of another, words and numbers are made of characters that no separator
has, and numbers are told apart by reading them; so a list is taken apart from left to right.
-/

namespace AgentFlow

open List

theorem CodePoint.toNat_inj {a b : CodePoint} (same : a.toNat = b.toNat) : a = b := by
  -- No scalar value has the number of a surrogate.
  have apart (char : Char) (offset : Fin 2048) : char.toNat ≠ 0xD800 + offset := by
    have valid : char.toNat < 0xD800 ∨ 0xDFFF < char.toNat ∧ char.toNat < 0x110000 := char.valid
    omega
  cases a with
  | scalar char =>
    cases b with
    | scalar other => exact congrArg _ (Char.toNat_inj.1 same)
    | surrogate offset => exact absurd same (apart char offset)
  | surrogate offset =>
    cases b with
    | scalar char => exact absurd same.symm (apart char offset)
    | surrogate other => exact congrArg _ (Fin.ext (Nat.add_left_cancel same))

theorem CodePoint.toNat_lt (c : CodePoint) : c.toNat < 0x110000 := by
  cases c with
  | scalar char =>
    have valid : char.toNat < 0xD800 ∨ 0xDFFF < char.toNat ∧ char.toNat < 0x110000 := char.valid
    exact valid.elim (fun low => Nat.lt_trans low (by decide)) And.right
  | surrogate offset =>
    show 0xD800 + offset.val < 0x110000
    omega

namespace Text

/-! ## Hexadecimal digits -/

theorem ofHex_succ {width : Nat} (wide : 0 < width) (n : Nat) :
    ofHex (width + 1) n = ofHex width (n / 16) ++ [.scalar (n % 16).digitChar] := by
  by_cases small : n < 16
  · have shown : Nat.toDigits 16 n = [n.digitChar] := Nat.toDigits_of_lt_base small
    rw [Nat.div_eq_of_lt small, Nat.mod_eq_of_lt small]
    simp only [ofHex, shown, Nat.toDigits_zero, length_singleton, ofChars, map_append,
      map_replicate, map_cons, map_nil, Nat.add_sub_cancel]
    rw [← replicate_succ', Nat.sub_add_cancel wide]
  · rw [ofHex, Nat.toDigits_of_base_le (by decide) (Nat.le_of_not_lt small), length_append,
      length_singleton, Nat.add_sub_add_right, ofHex]
    simp [ofChars]

theorem ofHex_inj {width m n : Nat} (wide : 0 < width) (low : m < 16 ^ width)
    (low' : n < 16 ^ width)
    (same : ofHex width m = ofHex width n) : m = n := by
  induction width, wide using Nat.le_induction generalizing m n with
  | base =>
    have all : ∀ m < 16, ∀ n < 16, ofHex 1 m = ofHex 1 n → m = n := by decide
    exact all m low n low' same
  | succ width wide ih =>
    rw [ofHex_succ wide, ofHex_succ wide] at same
    obtain ⟨front, last⟩ := append_inj' same rfl
    have all : ∀ m < 16, ∀ n < 16, [CodePoint.scalar m.digitChar] = [.scalar n.digitChar] →
      m = n := by
      decide
    have quotients := ih (Nat.div_lt_of_lt_mul (by rwa [← Nat.pow_succ']))
      (Nat.div_lt_of_lt_mul (by rwa [← Nat.pow_succ'])) front
    have remainders := all _ (Nat.mod_lt m (by decide)) _ (Nat.mod_lt n (by decide)) last
    omega

theorem length_ofHex {width n : Nat} (wide : 0 < width) (low : n < 16 ^ width) :
    (ofHex width n).length = width := by
  have fits := (Nat.length_toDigits_le_iff (b := 16) (by decide) wide).2 low
  simp only [ofHex, ofChars, length_map, length_append, length_replicate]
  omega

end Text

/-! ## Quoted text -/

namespace CodePoint

def isQuote (c : CodePoint) : Prop := c = apostrophe ∨ c = quotation

/-- The character that a letter after a backslash stands for. -/
def lettered? (quote letter : CodePoint) : Option CodePoint :=
  if letter = quote ∨ letter = backslash then some letter
  else if letter = 'n' then some '\n'
  else if letter = 'r' then some '\r'
  else if letter = 't' then some '\t'
  else none

/-- The letters of the escapes by number, with the digits that follow. -/
def widths : List (CodePoint × Nat) := [('x', 2), ('u', 4), ('U', 8)]

/-- How a character is shown between quotes. -/
inductive Shows (quote : CodePoint) : CodePoint → Text → Prop
  | itself {c} (plain : c ≠ backslash) (inside : c ≠ quote) : Shows quote c [c]
  | letter {c e} (known : lettered? quote e = some c) : Shows quote c [backslash, e]
  | digits {c mark width} (known : (mark, width) ∈ widths) (low : c.toNat < 16 ^ width) :
      Shows quote c (backslash :: mark :: Text.ofHex width c.toNat)

variable {quote c d : CodePoint} {piece other rest left : Text}

theorem shows_shownIn (isQuote : quote.isQuote) (c : CodePoint) :
    Shows quote c (shownIn quote c) := by
  have letters : lettered? quote 'n' = some '\n' ∧ lettered? quote 'r' = some '\r' ∧
      lettered? quote 't' = some '\t' := by
    rcases isQuote with rfl | rfl <;> decide
  unfold shownIn
  split
  · next special => exact .letter (if_pos special)
  · next special =>
    obtain ⟨inside, plain⟩ := not_or.1 special
    split
    · next line => exact .letter (line ▸ letters.1)
    · split
      · next back => exact .letter (back ▸ letters.2.1)
      · split
        · next tab => exact .letter (tab ▸ letters.2.2)
        · split
          · exact .itself plain inside
          · split
            · next small => exact .digits (by decide) small
            · split
              · next small => exact .digits (by decide) small
              · exact .digits (by decide) (Nat.lt_trans c.toNat_lt (by decide))

/-- No escape is the beginning of another. -/
theorem Shows.inj (isQuote : quote.isQuote) (shows : Shows quote c piece)
    (shows' : Shows quote d other) (same : piece ++ rest = other ++ left) :
    c = d ∧ rest = left := by
  have apart : ∀ entry ∈ widths, lettered? quote entry.1 = none := by
    rcases isQuote with rfl | rfl <;> decide
  have wide : ∀ entry ∈ widths, 0 < entry.2 := by decide
  cases shows with
  | itself plain =>
    cases shows' with
    | itself => exact List.cons.inj same
    | letter | digits => exact absurd (List.cons.inj same).1 plain
  | letter known =>
    cases shows' with
    | itself plain => exact absurd (List.cons.inj same).1.symm plain
    | letter known' =>
      obtain ⟨rfl, rests⟩ := List.cons.inj (List.cons.inj same).2
      exact ⟨Option.some.inj (known.symm.trans known'), rests⟩
    | digits width =>
      rw [(List.cons.inj (List.cons.inj same).2).1, apart _ width] at known
      cases known
  | @digits mark count known low =>
    cases shows' with
    | itself plain => exact absurd (List.cons.inj same).1.symm plain
    | letter letter =>
      rw [← (List.cons.inj (List.cons.inj same).2).1, apart _ known] at letter
      cases letter
    | @digits _ count' known' low' =>
      obtain ⟨rfl, rests⟩ := List.cons.inj (List.cons.inj same).2
      have function : ∀ entry ∈ widths, ∀ entry' ∈ widths, entry.1 = entry'.1 →
          entry.2 = entry'.2 := by decide
      obtain rfl : count = count' := function _ known _ known' rfl
      have lengths := (Text.length_ofHex (wide _ known) low).trans
        (Text.length_ofHex (wide _ known) low').symm
      obtain ⟨numbers, rests⟩ := append_inj rests lengths
      exact ⟨toNat_inj (Text.ofHex_inj (wide _ known) low low' numbers), rests⟩

theorem Shows.head_ne (isQuote : quote.isQuote) (shows : Shows quote c piece) :
    piece ++ rest ≠ quote :: left := by
  have apart : backslash ≠ quote := by rcases isQuote with rfl | rfl <;> decide
  cases shows with
  | itself _ inside => exact fun same => inside (List.cons.inj same).1
  | letter | digits => exact fun same => apart (List.cons.inj same).1

end CodePoint

namespace Text

open CodePoint

variable {rest left : Text}

theorem isQuote_shownQuote (t : Text) : t.shownQuote.isQuote := by
  unfold shownQuote
  split
  · exact .inr rfl
  · exact .inl rfl

/-- Escapes up to a quote are those of one text. -/
theorem shownIn_inj {quote : CodePoint} (isQuote : quote.isQuote) {t u : Text}
    (same : t.flatMap (shownIn quote) ++ quote :: rest =
      u.flatMap (shownIn quote) ++ quote :: left) :
    t = u ∧ rest = left := by
  induction t generalizing u with
  | nil =>
    cases u with
    | nil => exact ⟨rfl, (List.cons.inj same).2⟩
    | cons d ds =>
      rw [flatMap_cons, append_assoc] at same
      exact absurd same.symm ((shows_shownIn isQuote d).head_ne isQuote)
  | cons c cs ih =>
    rw [flatMap_cons, append_assoc] at same
    cases u with
    | nil => exact absurd same ((shows_shownIn isQuote c).head_ne isQuote)
    | cons d ds =>
      rw [flatMap_cons, append_assoc] at same
      obtain ⟨rfl, others⟩ := (shows_shownIn isQuote c).inj isQuote (shows_shownIn isQuote d) same
      obtain ⟨rfl, rests⟩ := ih others
      exact ⟨rfl, rests⟩

theorem shown_append_inj {t u : Text} (same : t.shown ++ rest = u.shown ++ left) :
    t = u ∧ rest = left := by
  unfold shown at same
  simp only [cons_append, append_assoc] at same
  obtain ⟨quotes, same⟩ := List.cons.inj same
  rw [← quotes] at same
  exact shownIn_inj (isQuote_shownQuote t) same

/-- The separators and brackets that follow what is shown. -/
def closers : Text := [',', ']', '\x7d', ')']

theorem shown_append_ne {t : Text} {close : CodePoint} (closes : close ∈ closers) :
    t.shown ++ rest ≠ close :: left := by
  have apart : ∀ c ∈ closers, c ≠ apostrophe ∧ c ≠ quotation := by decide
  intro same
  have head : t.shownQuote = close := (List.cons.inj same).1
  rcases t.isQuote_shownQuote with quote | quote
  · exact (apart close closes).1 (head.symm.trans quote)
  · exact (apart close closes).2 (head.symm.trans quote)

def Ends (rest : Text) : Prop := ∃ c ∈ closers, ∃ more, rest = c :: more

/-- Texts of things with a comma between them are taken apart, if each one is known from its text
and what follows. -/
theorem join_append_inj {α : Type} {show_ : α → Text} {close : CodePoint} (closes : close ∈ closers)
    (comma : close ≠ ',') {xs ys : List α}
    (inj : ∀ x ∈ xs, ∀ y ∈ ys, ∀ {rest left : Text}, Ends rest → Ends left →
      show_ x ++ rest = show_ y ++ left → x = y ∧ rest = left)
    (opens : ∀ x, x ∈ xs ∨ x ∈ ys → ∀ rest left, show_ x ++ rest ≠ close :: left)
    (same : join ", " (xs.map show_) ++ close :: rest = join ", " (ys.map show_) ++ close :: left) :
    xs = ys ∧ rest = left := by
  have ends (more : Text) : Ends (close :: more) := ⟨close, closes, more, rfl⟩
  have ends' (more : Text) : Ends (ofString ", " ++ more) := ⟨',', by decide, ' ' :: more, rfl⟩
  induction xs generalizing ys with
  | nil =>
    cases ys with
    | nil => exact ⟨rfl, (List.cons.inj same).2⟩
    | cons y ys =>
      have starts := opens y (.inr mem_cons_self)
      cases ys with
      | nil => exact absurd same.symm (starts _ _)
      | cons y' ys =>
        simp only [map_cons, join, append_assoc] at same
        exact absurd same.symm (starts _ _)
  | cons x xs ih =>
    have starts := opens x (.inl mem_cons_self)
    cases ys with
    | nil =>
      cases xs with
      | nil => exact absurd same (starts _ _)
      | cons x' xs =>
        simp only [map_cons, join, append_assoc] at same
        exact absurd same (starts _ _)
    | cons y ys =>
      have first {rest left : Text} := @inj x mem_cons_self y mem_cons_self rest left
      cases xs with
      | nil =>
        cases ys with
        | nil =>
          obtain ⟨rfl, others⟩ := first (ends _) (ends _) same
          exact ⟨rfl, (List.cons.inj others).2⟩
        | cons y' ys =>
          simp only [map_cons, map_nil, join, append_assoc] at same
          exact absurd (List.cons.inj (first (ends _) (ends' _) same).2).1 comma
      | cons x' xs =>
        cases ys with
        | nil =>
          simp only [map_cons, map_nil, join, append_assoc] at same
          exact absurd (List.cons.inj (first (ends' _) (ends _) same).2).1.symm comma
        | cons y' ys =>
          simp only [map_cons, join, append_assoc] at same
          obtain ⟨rfl, others⟩ := first (ends' _) (ends' _) same
          obtain ⟨equal, rests⟩ := ih
            (fun x listed y listed' => inj x (mem_cons_of_mem _ listed)
              y (mem_cons_of_mem _ listed'))
            (fun x listed => opens x (listed.imp (mem_cons_of_mem _) (mem_cons_of_mem _)))
            (append_cancel_left others)
          exact ⟨congrArg _ equal, rests⟩

end Text

namespace Json

open Text (Ends closers ofChars)
open Target (isNumeric Writes)

/-! ## Words and numbers -/

/-- The values that are shown as words. -/
def words : List (Text × Json) :=
  [("None", .null), ("True", .bool true), ("False", .bool false), ("nan", .float .nan),
    ("inf", .float (.infinity false)), ("-inf", .float (.infinity true))]

def isBare : CodePoint → Bool
  | .scalar char => char.isAlpha || isNumeric char
  | .surrogate _ => false

/-- A value is shown as a word or a number. -/
inductive Bare (value : Json) (text : Text) : Prop
  | word (known : (text, value) ∈ words)
  | number {chars : List Char} (spelled : text = ofChars chars) (nonempty : chars ≠ [])
      (numeric : ∀ c ∈ chars, isNumeric c = true) (written : Writes .or text value.code)
      (read : value.code.literal? = some value)

variable {a b : Json} {text rest left : Text}

theorem Bare.inj (bare : Bare a text) (bare' : Bare b text) : a = b := by
  have apart : ∀ word ∈ words, ∃ c ∈ word.1, c.toChar?.any isNumeric = false := by decide
  have noWord {chars : List Char} (spelled : text = ofChars chars)
      (numeric : ∀ c ∈ chars, isNumeric c = true) (value : Json) : (text, value) ∉ words := by
    intro known
    obtain ⟨_, listed, other⟩ := apart _ known
    rw [spelled] at listed
    obtain ⟨c, inside, rfl⟩ := mem_map.1 listed
    rw [CodePoint.toChar?_scalar, Option.any_some, numeric c inside] at other
    cases other
  cases bare with
  | word known =>
    cases bare' with
    | word known' =>
      have function : ∀ word ∈ words, ∀ other ∈ words, word.1 = other.1 → word.2 = other.2 := by
        decide
      exact function _ known _ known' rfl
    | number spelled _ numeric => exact absurd known (noWord spelled numeric a)
  | number spelled _ numeric written read =>
    cases bare' with
    | word known => exact absurd known (noWord spelled numeric b)
    | number _ _ _ written' read' =>
      obtain ⟨chars, same, -, parsed⟩ := written.parse
      obtain ⟨chars', same', -, parsed'⟩ := written'.parse
      have chars_eq : chars = chars' := by
        have both := congrArg Text.toChars? (same.symm.trans same')
        rw [Target.toChars?_ofChars, Target.toChars?_ofChars] at both
        exact Option.some.inj both
      rw [chars_eq, parsed'] at parsed
      rw [Option.some.inj parsed, read] at read'
      exact Option.some.inj read'

theorem Bare.characters (bare : Bare a text) : text ≠ [] ∧ ∀ c ∈ text, isBare c = true := by
  cases bare with
  | word known =>
    have all : ∀ word ∈ words, word.1 ≠ [] ∧ ∀ c ∈ word.1, isBare c = true := by decide
    exact all _ known
  | number spelled some numeric =>
    subst spelled
    refine ⟨by simpa [ofChars] using some, fun c listed => ?_⟩
    obtain ⟨char, inside, rfl⟩ := mem_map.1 listed
    rw [isBare, numeric char inside, Bool.or_true]

theorem bare_float (x : Binary64) : Bare (.float x) x.toText := by
  by_cases finite : x.isFinite = true
  · obtain ⟨chars, spelled, some, numeric⟩ := Target.exists_toText finite
    exact .number spelled some numeric (Target.writes_float finite).whole
      (literal?_code _ (everywhere_scalar rfl trivial))
  · have top : x.biased.val = 2047 := by simpa [Binary64.isFinite] using finite
    by_cases whole : x.fraction.val = 0
    · have same : x = .infinity x.negative := Binary64.eq_of_fields rfl top whole
      rw [same]
      cases x.negative <;> exact .word (by decide)
    · obtain ⟨positive, fraction⟩ := x.quiet top whole
      have same : x = .nan := Binary64.eq_of_fields positive top fraction
      rw [same]
      exact .word (by decide)

theorem bare_int {value : Int} (short : isShort (.int value) = true) :
    Bare (.int value) (Text.ofInt value) := by
  obtain ⟨chars, spelled, some, numeric⟩ := Target.exists_ofInt value
  have held : Held (.int value) := of_decide_eq_true short
  exact .number spelled some numeric (Target.writes_int held).whole
    (literal?_code _ (everywhere_scalar rfl held))

def openers : Text := [CodePoint.apostrophe, .quotation, '[', '\x7b']

/-- A value is shown between quotes or brackets. -/
inductive Opens : Json → Prop
  | str (value : Text) : Opens (.str value)
  | arr (items : List Json) : Opens (.arr items)
  | obj (entries : Entries) : Opens (.obj entries)

theorem bare_or_opens (short : isShort a = true) : Bare a a.shown ∨ Opens a := by
  cases a with
  | null => exact .inl (.word (by decide))
  | bool value => cases value <;> exact .inl (.word (by decide))
  | int value => exact .inl (bare_int short)
  | float x => exact .inl (bare_float x)
  | str value => exact .inr (.str value)
  | arr items => exact .inr (.arr items)
  | obj entries => exact .inr (.obj entries)

theorem Opens.head (opens : Opens a) : ∃ c ∈ openers, ∃ more, a.shown = c :: more := by
  cases opens with
  | str value =>
    refine ⟨value.shownQuote, ?_, _, rfl⟩
    rcases value.isQuote_shownQuote with same | same <;> rw [same] <;> decide
  | arr items => exact ⟨'[', by decide, _, rfl⟩
  | obj entries => exact ⟨'\x7b', by decide, _, rfl⟩

theorem shown_append_ne (short : isShort a = true) {close : CodePoint} (closes : close ∈ closers) :
    a.shown ++ rest ≠ close :: left := by
  have notBare : ∀ c ∈ closers, isBare c = false := by decide
  rcases bare_or_opens short with bare | opens
  · obtain ⟨some, all⟩ := bare.characters
    obtain ⟨c, more, shown⟩ := exists_cons_of_ne_nil some
    intro same
    rw [shown] at same
    have here := all c (by simp [shown])
    rw [(List.cons.inj same).1, notBare close closes] at here
    cases here
  · have apart : ∀ c ∈ openers, c ∉ closers := by decide
    obtain ⟨c, opens, more, shown⟩ := opens.head
    intro same
    rw [shown] at same
    exact apart c opens ((List.cons.inj same).1 ▸ closes)

theorem takeWhile_isBare {text : Text} (all : ∀ c ∈ text, isBare c = true) (ends : Ends rest) :
    (text ++ rest).takeWhile isBare = text := by
  obtain ⟨c, closes, more, rfl⟩ := ends
  have notBare : ∀ c ∈ closers, isBare c = false := by decide
  rw [takeWhile_append_of_pos all, takeWhile_cons_of_neg (by simp [notBare c closes]), append_nil]

theorem Bare.shown_append_inj (bare : Bare a a.shown) (short : isShort b = true) (ends : Ends rest)
    (ends' : Ends left) (same : a.shown ++ rest = b.shown ++ left) : a = b ∧ rest = left := by
  obtain ⟨some, all⟩ := bare.characters
  rcases bare_or_opens short with bare' | opens
  · have texts := congrArg (takeWhile isBare) same
    rw [takeWhile_isBare all ends, takeWhile_isBare bare'.characters.2 ends'] at texts
    rw [texts] at same
    exact ⟨bare.inj (texts ▸ bare'), append_cancel_left same⟩
  · have notBare : ∀ c ∈ openers, isBare c = false := by decide
    obtain ⟨c, opens, more, shown⟩ := opens.head
    obtain ⟨d, others, shown'⟩ := exists_cons_of_ne_nil some
    rw [shown, shown'] at same
    have here := all d (by simp [shown'])
    rw [(List.cons.inj same).1, notBare c opens] at here
    cases here

/-! ## Lists and objects -/

theorem shownItems_eq (items : List Json) :
    shownItems items = Text.join ", " (items.map shown) := by
  induction items with
  | nil => rfl
  | cons item rest ih =>
    cases rest with
    | nil => rfl
    | cons next rest =>
      rw [shownItems, ih]
      rfl

def shownEntry (entry : Text × Json) : Text := entry.1.shown ++ ": " ++ entry.2.shown

theorem shownEntries_eq (entries : Entries) :
    shownEntries entries = Text.join ", " (entries.map shownEntry) := by
  induction entries with
  | nil => rfl
  | cons entry rest ih =>
    obtain ⟨key, value⟩ := entry
    cases rest with
    | nil => rfl
    | cons next rest =>
      rw [shownEntries, ih]
      rfl

theorem shownEntry_append_ne {entry : Text × Json} {close : CodePoint} (closes : close ∈ closers) :
    shownEntry entry ++ rest ≠ close :: left := by
  unfold shownEntry
  rw [append_assoc, append_assoc]
  exact Text.shown_append_ne closes

theorem shownEntry_append_inj {entry other : Text × Json}
    (inj : entry.2.shown ++ rest = other.2.shown ++ left → entry.2 = other.2 ∧ rest = left)
    (same : shownEntry entry ++ rest = shownEntry other ++ left) : entry = other ∧ rest = left := by
  unfold shownEntry at same
  simp only [append_assoc] at same
  obtain ⟨keys, same⟩ := Text.shown_append_inj same
  obtain ⟨values, rests⟩ := inj (append_cancel_left same)
  exact ⟨Prod.ext keys values, rests⟩

theorem isWritable_iff {value : Json} :
    value.isWritable = true ↔ value.Everywhere (isShort · = true) := by
  simp [isWritable, Everywhere]

/-- **The text of a value determines the value.** -/
theorem shown_append_inj (writable : a.isWritable = true) (writable' : b.isWritable = true)
    (ends : Ends rest) (ends' : Ends left) (same : a.shown ++ rest = b.shown ++ left) :
    a = b ∧ rest = left := by
  rw [isWritable_iff] at writable writable'
  have short : isShort b = true := everywhere_self writable'
  induction a using Json.induction generalizing b rest left with
  | null => exact Bare.shown_append_inj (.word (by decide)) short ends ends' same
  | bool value =>
    exact Bare.shown_append_inj (.word (by cases value <;> decide)) short ends ends' same
  | int value =>
    exact (bare_int (everywhere_self writable)).shown_append_inj short ends ends' same
  | float x => exact (bare_float x).shown_append_inj short ends ends' same
  -- What starts with a quote or a bracket is compared with what starts with the same.
  | str value =>
    have quotes : ∀ c : CodePoint, c.isQuote → c ≠ '[' ∧ c ≠ '\x7b' := by
      rintro _ (rfl | rfl) <;> decide
    obtain ⟨notList, notObject⟩ := quotes _ value.isQuote_shownQuote
    rcases bare_or_opens short with bare | other | _ | _
    · exact (bare.shown_append_inj rfl ends' ends same.symm).imp Eq.symm Eq.symm
    · obtain ⟨rfl, rests⟩ := Text.shown_append_inj same
      exact ⟨rfl, rests⟩
    · exact absurd (List.cons.inj same).1 notList
    · exact absurd (List.cons.inj same).1 notObject
  | arr items ih =>
    rcases bare_or_opens short with bare | value | others | _
    · exact (bare.shown_append_inj rfl ends' ends same.symm).imp Eq.symm Eq.symm
    · rcases value.isQuote_shownQuote with quote | quote
      all_goals cases quote.symm.trans (List.cons.inj same).1.symm
    · have inside := (everywhere_arr.1 writable).2
      have inside' := (everywhere_arr.1 writable').2
      have opened : shownItems items ++ (Text.ofString "]" ++ rest) =
          shownItems others ++ (Text.ofString "]" ++ left) := by
        simpa [shown] using same
      rw [shownItems_eq, shownItems_eq] at opened
      change _ ++ (']' : CodePoint) :: rest = _ ++ (']' : CodePoint) :: left at opened
      obtain ⟨rfl, rests⟩ := Text.join_append_inj (by decide) (by decide)
        (fun item listed other listed' _ _ ends ends' same => ih item listed (inside item listed)
          (inside' other listed') ends ends' same (everywhere_self (inside' other listed')))
        (fun item listed _ _ => shown_append_ne
          (everywhere_self (listed.elim (inside item) (inside' item))) (by decide)) opened
      exact ⟨rfl, rests⟩
    · cases (List.cons.inj same).1
  | obj entries ih =>
    rcases bare_or_opens short with bare | value | _ | others
    · exact (bare.shown_append_inj rfl ends' ends same.symm).imp Eq.symm Eq.symm
    · rcases value.isQuote_shownQuote with quote | quote
      all_goals cases quote.symm.trans (List.cons.inj same).1.symm
    · cases (List.cons.inj same).1
    · have inside := (everywhere_obj.1 writable).2
      have inside' := (everywhere_obj.1 writable').2
      have opened : shownEntries entries ++ (Text.ofString "\x7d" ++ rest) =
          shownEntries others ++ (Text.ofString "\x7d" ++ left) := by
        simpa [shown] using same
      rw [shownEntries_eq, shownEntries_eq] at opened
      change _ ++ ('\x7d' : CodePoint) :: rest = _ ++ ('\x7d' : CodePoint) :: left at opened
      obtain ⟨rfl, rests⟩ := Text.join_append_inj (by decide) (by decide)
        (fun entry listed other listed' _ _ ends ends' => shownEntry_append_inj fun same =>
          ih entry listed (inside entry listed) (inside' other listed') ends ends' same
            (everywhere_self (inside' other listed')))
        (fun entry _ _ _ => shownEntry_append_ne (by decide)) opened
      exact ⟨rfl, rests⟩

end Json

end AgentFlow
