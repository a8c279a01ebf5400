import AgentFlow.Proofs.Json.Documents
import AgentFlow.Proofs.Layout.Laid

/-!
# Literals that are read back

The code of a literal has a JSON value: constants and numbers with a minus sign stand for
themselves, lists and dictionaries for what their literals stand for.  A value of a document is laid
out as code of which it is the value, unless it holds a number that is not finite or a text with a
surrogate.
-/

namespace AgentFlow

open List
open Literal (layout layoutItems ofItems layoutEntries ofEntries ofJson)

namespace Target

/-! ## The value of a literal -/

/-- A double with the other sign; what is no number has none. -/
def negated (x : Binary64) : Binary64 :=
  if number : x.isNaN then x
  else { x with
    negative := !x.negative
    quiet := fun top some => absurd (by simp [Binary64.isNaN, top, some]) number }

mutual

/-- The value of code that is a literal. -/
def Code.literal? : Code → Option Json
  | .constant .none => some .null
  | .constant (.bool value) => some (.bool value)
  | .constant (.int value) => some (.int value)
  | .constant (.float value) => some (.float value)
  | .constant (.str value) => some (.str value)
  | .unaryOp .minus (.constant (.int value)) => some (.int (-value))
  | .unaryOp .minus (.constant (.float value)) => some (.float (negated value))
  | .list items => (literals? items).map .arr
  | .dict entries => (literalEntries? [] entries).map .obj
  | _ => none

def literals? : List Code → Option (List Json)
  | [] => some []
  | item :: rest => do
    let value ← item.literal?
    let values ← literals? rest
    some (value :: values)

/-- The entries of a dictionary of literals, after those that are known.  Its keys are texts; a
repeated one keeps its first place and its last value. -/
def literalEntries? (known : Entries) : List (Option Code × Code) → Option Entries
  | [] => some known
  | (some (.constant (.str key)), item) :: rest => do
    let value ← item.literal?
    literalEntries? (known.insert key value) rest
  | _ => none

end

end Target

namespace Json

open Target (Code)

mutual

/-- The code of a value. -/
def code : Json → Code
  | .null => .constant .none
  | .bool value => .constant (.bool value)
  | .int (.ofNat n) => .constant (.int n)
  | .int (.negSucc n) => .unaryOp .minus (.constant (.int (n + 1)))
  | .float x =>
    if x.negative then .unaryOp .minus (.constant (.float x.unsigned)) else .constant (.float x)
  | .str value => .constant (.str value)
  | .arr items => .list (codes items)
  | .obj entries => .dict (codeEntries entries)

def codes : List Json → List Code
  | [] => []
  | item :: rest => item.code :: codes rest

def codeEntries : List (Text × Json) → List (Option Code × Code)
  | [] => []
  | (key, value) :: rest => (some (.constant (.str key)), value.code) :: codeEntries rest

end

theorem literals?_codes {items : List Json}
    (each : ∀ item ∈ items, item.code.literal? = some item) :
    Target.literals? (codes items) = some items := by
  induction items with
  | nil => rfl
  | cons item rest ih =>
    obtain ⟨first, others⟩ := forall_mem_cons.1 each
    simp [codes, Target.literals?, first, ih others]

/-- New keys go to the end, one after the other. -/
theorem literalEntries?_codeEntries {entries : List (Text × Json)}
    (each : ∀ entry ∈ entries, entry.2.code.literal? = some entry.2) (known : Entries)
    (distinct : ((known ++ entries).map Prod.fst).Nodup) :
    Target.literalEntries? known (codeEntries entries) = some (known ++ entries) := by
  induction entries generalizing known with
  | nil => simp [codeEntries, Target.literalEntries?]
  | cons entry rest ih =>
    obtain ⟨key, value⟩ := entry
    obtain ⟨first, others⟩ := forall_mem_cons.1 each
    have absent : ¬known.any (·.1 = key) = true := by
      intro present
      obtain ⟨old, member, same⟩ := any_eq_true.1 present
      rw [map_append, nodup_append] at distinct
      exact distinct.2.2 old.1 (mem_map_of_mem member) key mem_cons_self (of_decide_eq_true same)
    have inserted : known.insert key value = known ++ [(key, value)] := if_neg absent
    have tail := ih others (known ++ [(key, value)]) (by simpa using distinct)
    simp [codeEntries, Target.literalEntries?, first, inserted, tail]

/-- **The code of a value is a literal of it,** also where it is a dictionary, because no key of the
value is repeated. -/
theorem literal?_code (value : Json) (held : value.Everywhere Held) :
    value.code.literal? = some value := by
  induction value using Json.induction with
  | null => rfl
  | bool value => rfl
  | int value => cases value <;> rfl
  | float x =>
    rw [code]
    split
    · next negative =>
        have number : ¬x.unsigned.isNaN = true := by
          intro nan
          obtain ⟨top, some⟩ := of_decide_eq_true nan
          cases negative.symm.trans (x.quiet top some).1
        have same : Target.negated x.unsigned = x := by
          rw [Target.negated, dif_neg number]
          exact Binary64.eq_of_fields negative.symm rfl rfl
        rw [Target.Code.literal?, same]
    · rfl
  | str value => rfl
  | arr items ih =>
    obtain ⟨-, inside⟩ := everywhere_arr.1 held
    have each := literals?_codes fun item member => ih item member (inside item member)
    rw [code, Target.Code.literal?, each]
    rfl
  | obj entries ih =>
    obtain ⟨distinct, inside⟩ := everywhere_obj.1 held
    have each := literalEntries?_codeEntries
      (fun entry member => ih entry member (inside entry member)) [] distinct
    rw [code, Target.Code.literal?, each]
    rfl

/-! ## Layout -/

/-- What a literal needs of a value, apart from the values inside it: a double is finite, and a text
or a key has no surrogate. -/
def Plain : Json → Prop
  | .float x => x.isFinite = true
  | .str value => ∀ point ∈ value, point.isSurrogate = false
  | .obj entries => ∀ entry ∈ entries, ∀ point ∈ entry.1, point.isSurrogate = false
  | _ => True

instance : DecidablePred Plain
  | .float x => inferInstanceAs (Decidable (x.isFinite = true))
  | .str value => inferInstanceAs (Decidable (∀ point ∈ value, point.isSurrogate = false))
  | .obj entries => inferInstanceAs
    (Decidable (∀ entry ∈ entries, ∀ point ∈ entry.1, point.isSurrogate = false))
  | .null | .bool _ | .int _ | .arr _ => inferInstanceAs (Decidable True)

end Json

namespace Target

open Json (Everywhere Held Plain)

theorem ends_of_visible {text : Text} (some : text ≠ [])
    (visible : ∀ point ∈ text, point.isBlank = false) :
    ∃ front last, text = front ++ [last] ∧ last.isBlank = false :=
  ⟨text.dropLast, text.getLast some, (dropLast_append_getLast some).symm,
    visible _ (getLast_mem some)⟩

theorem ends_of_isNumeric {chars : List Char} (some : chars ≠ [])
    (numeric : ∀ c ∈ chars, isNumeric c = true) :
    ∃ front last, Text.ofChars chars = front ++ [last] ∧ last.isBlank = false := by
  refine ends_of_visible (by simpa [Text.ofChars] using some) fun point member => ?_
  obtain ⟨c, inside, rfl⟩ := mem_map.1 member
  have small : c.toNat < 128 := by
    have known := numeric c inside
    simp only [isNumeric, Bool.or_eq_true, Char.isDigit, Bool.and_eq_true, decide_eq_true_eq,
      UInt32.le_iff_toNat_le, mem_cons, not_mem_nil, or_false] at known
    rcases known with digit | rfl | rfl | rfl | rfl
    · exact Nat.lt_of_le_of_lt digit.2 (by decide)
    all_goals decide
  have all : ∀ n < 128, isNumeric (Char.ofNat n) = true →
      (CodePoint.scalar (Char.ofNat n)).isBlank = false := by decide
  simpa only [Char.ofNat_toNat] using
    all c.toNat small (by simpa only [Char.ofNat_toNat] using numeric c inside)

/-! ## Scalars -/

theorem isNumeric_toDigits (n : Nat) : ∀ c ∈ Nat.toDigits 10 n, isNumeric c = true :=
  fun c member => isNumeric_of_isDigit (isDigit_toDigits n c member)

theorem writes_int {value : Int} (held : Held (.int value)) :
    Writes .unary (Text.ofInt value) (Json.int value).code := by
  cases value with
  | ofNat n => exact (writes_nat n held).loosen (by decide)
  | negSucc n => exact ((writes_nat (n + 1) held).loosen (by decide)).minus

theorem exists_ofInt (value : Int) : ∃ chars, Text.ofInt value = Text.ofChars chars ∧ chars ≠ [] ∧
    ∀ c ∈ chars, isNumeric c = true := by
  cases value with
  | ofNat n => exact ⟨_, rfl, toDigits_ne_nil n, isNumeric_toDigits n⟩
  | negSucc n =>
    exact ⟨'-' :: _, rfl, cons_ne_nil _ _,
      forall_mem_cons.2 ⟨by decide, isNumeric_toDigits (n + 1)⟩⟩

theorem laid_int {value : Int} (held : Held (.int value)) :
    Laid .unary (Text.ofInt value) (Json.int value).code := by
  obtain ⟨chars, same, some, numeric⟩ := exists_ofInt value
  exact .of_writes (writes_int held) (same ▸ ends_of_isNumeric some numeric)

theorem writes_float {x : Binary64} (finite : x.isFinite = true) :
    Writes .unary x.toText (Json.float x).code := by
  rw [Json.code]
  split
  · next negative =>
      have written : Writes .atom (Text.ofChars (doubleChars x)) (.constant (.float x.unsigned)) :=
        ⟨_, _, rfl, spells_double finite, reads_number _⟩
      rw [toText_eq finite, if_pos negative]
      exact (written.loosen (by decide)).minus
  · next unsigned =>
      exact (writes_double finite (by simpa using unsigned)).loosen (by decide)

theorem exists_toText {x : Binary64} (finite : x.isFinite = true) :
    ∃ chars, x.toText = Text.ofChars chars ∧ chars ≠ [] ∧ ∀ c ∈ chars, isNumeric c = true := by
  obtain ⟨c, rest, shape, -, numeric⟩ := doubleChars_spec finite
  rw [toText_eq finite, shape]
  refine ⟨_, rfl, by split <;> simp, ?_⟩
  split
  · exact forall_mem_cons.2 ⟨by decide, numeric⟩
  · exact numeric

theorem laid_float {x : Binary64} (finite : x.isFinite = true) :
    Laid .unary x.toText (Json.float x).code := by
  obtain ⟨chars, same, some, numeric⟩ := exists_toText finite
  exact .of_writes (writes_float finite) (same ▸ ends_of_isNumeric some numeric)

theorem laid_str {value : Text} (plain : ∀ point ∈ value, point.isSurrogate = false) :
    Laid .atom value.doubleQuoted (.constant (.str value)) :=
  .of_writes (writes_quoted plain)
    ⟨CodePoint.quotation :: value.flatMap CodePoint.encoded, .quotation, rfl, by decide⟩

/-! ## Containers -/

def LaysOut (unit : Nat) (value : Json) : Prop :=
  ∃ source, layout (spaces unit) (.ofJson value) = .ok source ∧
    Laid .unary source value.code

variable {unit : Nat} {items : List Json} {entries : List (Text × Json)}

theorem laid_items (each : ∀ item ∈ items, LaysOut unit item) :
    ∃ sources, layoutItems (spaces unit) (ofItems items) =
        .ok (sources.map (itemLines unit)) ∧
      List.Forall₂ (Laid .or) sources (Json.codes items) := by
  induction items with
  | nil => exact ⟨[], rfl, .nil⟩
  | cons item rest ih =>
    obtain ⟨⟨source, written, laid⟩, others⟩ := forall_mem_cons.1 each
    obtain ⟨sources, writtens, laids⟩ := ih others
    refine ⟨source :: sources, ?_, .cons laid.whole laids⟩
    simp only [ofItems, layoutItems, written, writtens]
    rfl

theorem laid_entries (plain : ∀ entry ∈ entries, ∀ point ∈ entry.1, point.isSurrogate = false)
    (each : ∀ entry ∈ entries, LaysOut unit entry.2) :
    ∃ sources, layoutEntries (spaces unit) (ofEntries entries) =
        .ok (sources.map (itemLines unit)) ∧
      List.Forall₂ LaidEntry sources (Json.codeEntries entries) := by
  induction entries with
  | nil => exact ⟨[], rfl, .nil⟩
  | cons entry rest ih =>
    obtain ⟨key, value⟩ := entry
    obtain ⟨keyPlain, keysPlain⟩ := forall_mem_cons.1 plain
    obtain ⟨⟨source, written, laid⟩, others⟩ := forall_mem_cons.1 each
    obtain ⟨sources, writtens, laids⟩ := ih keysPlain others
    refine ⟨(key.doubleQuoted ++ ": " ++ source) :: sources, ?_,
      .cons (laid_entry keyPlain laid.whole) laids⟩
    have one : Text.OneLine (key.doubleQuoted ++ ": ") :=
      (writes_quoted keyPlain).oneLine.append (by decide)
    have firm : source.Firm := by
      obtain ⟨tokens, spans, -⟩ := laid
      exact spans.firm
    rw [map_cons, itemLines_append one firm]
    simp only [ofEntries, layoutEntries, written, writtens, append_assoc]
    rfl

theorem laysOut_arr (each : ∀ item ∈ items, LaysOut unit item) : LaysOut unit (.arr items) := by
  cases items with
  | nil =>
    refine ⟨"[]", rfl, .of_writes (Writes.loosen (writes_list .nil) (by decide)) ?_⟩
    exact ends_of_visible (by decide) (by decide)
  | cons item rest =>
    obtain ⟨sources, written, laid⟩ := laid_items each
    have some : sources ≠ [] := by
      rintro rfl
      cases laid
    obtain ⟨tokens, spans, read⟩ := laid_list laid some unit
    refine ⟨_, ?_, tokens, spans, read.loosen (by decide)⟩
    rw [ofJson, ofItems, layout, ← ofItems, written]
    · rfl
    · nofun

theorem laysOut_obj (plain : ∀ entry ∈ entries, ∀ point ∈ entry.1, point.isSurrogate = false)
    (each : ∀ entry ∈ entries, LaysOut unit entry.2) : LaysOut unit (.obj entries) := by
  cases entries with
  | nil =>
    refine ⟨"\x7b\x7d", rfl, .of_writes (Writes.loosen (writes_dict .nil) (by decide)) ?_⟩
    exact ends_of_visible (by decide) (by decide)
  | cons entry rest =>
    obtain ⟨sources, written, laid⟩ := laid_entries plain each
    have some : sources ≠ [] := by
      rintro rfl
      cases laid
    obtain ⟨tokens, spans, read⟩ := laid_dict laid some unit
    refine ⟨_, ?_, tokens, spans, read.loosen (by decide)⟩
    rw [ofJson, ofEntries, layout, ← ofEntries, written]
    · rfl
    · nofun

/-- **A value of a document is laid out as its code.** -/
theorem laid_json (value : Json) (held : value.Everywhere Held) (plain : value.Everywhere Plain)
    (unit : Nat) : LaysOut unit value := by
  induction value using Json.induction with
  | null =>
    exact ⟨_, rfl, .of_writes (writes_none.loosen (by decide))
      (ends_of_visible (by decide) (by decide))⟩
  | bool value =>
    exact ⟨_, rfl, .of_writes ((writes_bool value).loosen (by decide))
      (ends_of_visible (by cases value <;> decide) (by cases value <;> decide))⟩
  | int value => exact ⟨_, rfl, laid_int (Json.everywhere_self held)⟩
  | float x =>
    have finite : x.isFinite = true := Json.everywhere_self plain
    exact ⟨_, if_pos finite, laid_float finite⟩
  | str value =>
    obtain ⟨tokens, spans, read⟩ := laid_str (Json.everywhere_self plain)
    exact ⟨_, rfl, tokens, spans, read.loosen (by decide)⟩
  | arr items ih =>
    obtain ⟨-, inside⟩ := Json.everywhere_arr.1 held
    obtain ⟨-, inside'⟩ := Json.everywhere_arr.1 plain
    exact laysOut_arr fun item member => ih item member (inside item member) (inside' item member)
  | obj entries ih =>
    obtain ⟨-, inside⟩ := Json.everywhere_obj.1 held
    obtain ⟨keys, inside'⟩ := Json.everywhere_obj.1 plain
    exact laysOut_obj keys fun entry member =>
      ih entry member (inside entry member) (inside' entry member)

end Target

end AgentFlow
