import AgentFlow.Json.Reader
import AgentFlow.Proofs.Stoppable
import Mathlib.Algebra.Group.Nat.Defs
import Mathlib.Data.List.Nodup
import Mathlib.Data.List.TakeWhile

/-!
# What documents hold

The parts of a JSON value are the value and all values inside it.  Whatever a document holds, its
integers have no more digits than can be written, and no object has a key twice.
-/

namespace AgentFlow.Json

open List
open AgentFlow.Except (bind_eq_ok)

/-! ## Parts -/

theorem partsOf_eq (items : List Json) : partsOf items = items.flatMap parts := by
  induction items with
  | nil => rfl
  | cons item rest ih => rw [partsOf, ih, flatMap_cons]

theorem partsOfEntries_eq (entries : List (Text × Json)) :
    partsOfEntries entries = entries.flatMap fun entry => entry.2.parts := by
  induction entries with
  | nil => rfl
  | cons entry rest ih => rw [partsOfEntries, ih, flatMap_cons]

/-- Something holds of a value and of all values inside it. -/
def Everywhere (holds : Json → Prop) (value : Json) : Prop := ∀ part ∈ value.parts, holds part

instance (holds : Json → Prop) [DecidablePred holds] (value : Json) :
    Decidable (value.Everywhere holds) :=
  inferInstanceAs (Decidable (∀ part ∈ value.parts, holds part))

section Everywhere

variable {holds : Json → Prop}

theorem everywhere_self {value : Json} (everywhere : Everywhere holds value) : holds value :=
  everywhere value (by cases value <;> exact mem_cons_self)

theorem everywhere_arr {items : List Json} :
    Everywhere holds (.arr items) ↔
      holds (.arr items) ∧ ∀ item ∈ items, Everywhere holds item := by
  simp only [Everywhere, parts, partsOf_eq, forall_mem_cons, forall_mem_flatMap]

theorem everywhere_obj {entries : List (Text × Json)} :
    Everywhere holds (.obj entries) ↔
      holds (.obj entries) ∧ ∀ entry ∈ entries, Everywhere holds entry.2 := by
  simp only [Everywhere, parts, partsOfEntries_eq, forall_mem_cons, forall_mem_flatMap]

end Everywhere

/-- Induction over values, with the hypothesis for every item of a list and every value of an
object. -/
theorem induction {motive : Json → Prop} (null : motive .null)
    (bool : ∀ value, motive (.bool value)) (int : ∀ value, motive (.int value))
    (float : ∀ value, motive (.float value)) (str : ∀ value, motive (.str value))
    (arr : ∀ items, (∀ item ∈ items, motive item) → motive (.arr items))
    (obj : ∀ entries, (∀ entry ∈ entries, motive entry.2) → motive (.obj entries))
    (value : Json) : motive value := by
  refine @Json.rec motive (fun items => ∀ item ∈ items, motive item)
    (fun entries => ∀ entry ∈ entries, motive entry.2) (fun entry => motive entry.2) null bool int
    float str arr obj nofun ?_ nofun ?_ (fun _ _ inner => inner) value
  · exact fun head tail first rest => forall_mem_cons.2 ⟨first, rest⟩
  · exact fun head tail first rest => forall_mem_cons.2 ⟨first, rest⟩

/-! ## Values of documents -/

/-- What a document ensures of a value, apart from the values inside it: an integer has no more
digits than can be read, and an object has no key twice. -/
def Held : Json → Prop
  | .int value => (Nat.toDigits 10 value.natAbs).length ≤ Numeral.digitLimit
  | .obj entries => (entries.map Prod.fst).Nodup
  | _ => True

instance : DecidablePred Held
  | .int value => inferInstanceAs
    (Decidable ((Nat.toDigits 10 value.natAbs).length ≤ Numeral.digitLimit))
  | .obj entries => inferInstanceAs (Decidable (entries.map Prod.fst).Nodup)
  | .null | .bool _ | .float _ | .str _ | .arr _ => inferInstanceAs (Decidable True)

theorem digitsValue_lt {digits : Text} (areDigits : ∀ c ∈ digits, isAsciiDigit c = true) :
    digitsValue digits < 10 ^ digits.length := by
  have bound : ∀ (digits : Text) (start : Nat), (∀ c ∈ digits, isAsciiDigit c = true) →
      digits.foldl (fun n c => n * 10 + (c.toNat - 0x30)) start <
        (start + 1) * 10 ^ digits.length := by
    intro digits
    induction digits with
    | nil => simp
    | cons c rest ih =>
      intro start areDigits
      obtain ⟨first, others⟩ := forall_mem_cons.1 areDigits
      have small : c.toNat - 0x30 < 10 := by
        simp only [isAsciiDigit, Bool.and_eq_true, decide_eq_true_eq] at first
        omega
      calc _ < (start * 10 + (c.toNat - 0x30) + 1) * 10 ^ rest.length := ih _ others
        _ ≤ (start + 1) * 10 * 10 ^ rest.length := Nat.mul_le_mul_right _ (by omega)
        _ = (start + 1) * 10 ^ (c :: rest).length := by
          rw [length_cons, Nat.pow_succ, Nat.mul_comm (10 ^ rest.length), Nat.mul_assoc]
  simpa [digitsValue] using bound digits 0 areDigits

theorem isAsciiDigit_readWhole (s : Text) : ∀ c ∈ (readWhole s).1, isAsciiDigit c = true := by
  cases s with
  | nil => nofun
  | cons c rest =>
    rw [readWhole]
    split
    · next zero =>
        subst zero
        exact forall_mem_singleton.2 (by decide)
    · exact fun d member => mem_takeWhile_imp member

variable {value : Json}

theorem everywhere_scalar {holds : Json → Prop} (flat : value.parts = [value])
    (held : holds value) :
    Everywhere holds value := by
  intro part member
  rw [flat, mem_singleton] at member
  exact member ▸ held

theorem everywhere_numberValue {parts : NumberParts}
    (areDigits : ∀ c ∈ parts.whole, isAsciiDigit c = true) (read : parts.value = .ok value) :
    Everywhere Held value := by
  rw [NumberParts.value] at read
  split at read
  · split at read
    · cases read
    · next few =>
        cases read
        have below (limit : Nat) (fits : parts.whole.length ≤ limit) :
            digitsValue parts.whole < 10 ^ limit :=
          Nat.lt_of_lt_of_le (digitsValue_lt areDigits) (Nat.pow_le_pow_right (by decide) fits)
        refine everywhere_scalar rfl ?_
        refine (Nat.length_toDigits_le_iff (b := 10) (by decide) (by decide)).2 ?_
        split <;> simpa using below _ (Nat.le_of_not_lt few)
  · cases read
    exact everywhere_scalar rfl trivial

theorem everywhere_readNumber {negative : Bool} {s : Text} {start : Nat} {taken : Taken Json s}
    (read : readNumber negative s start = .ok taken) : Everywhere Held taken.value := by
  simp only [readNumber] at read
  split at read
  · cases read
  · split at read
    · cases read
    · next value found =>
        cases read
        exact everywhere_numberValue (isAsciiDigit_readWhole s) found

theorem everywhere_readScalar {s : Text} {taken : Taken Json s} (read : readScalar s = .ok taken) :
    Everywhere Held taken.value := by
  have words : ∀ entry ∈ keywords, Everywhere Held entry.2 := by
    simp only [keywords, forall_mem_cons]
    exact ⟨everywhere_scalar rfl trivial, everywhere_scalar rfl trivial,
      everywhere_scalar rfl trivial, everywhere_scalar rfl trivial, everywhere_scalar rfl trivial,
      everywhere_scalar rfl trivial, nofun⟩
  unfold readScalar at read
  split at read
  · next word value found =>
      split at read
      · cases read
        exact words _ (mem_of_find?_eq_some found)
      · cases read
  · split at read
    · next sign rest _ =>
        split at read
        · obtain ⟨number, first, last⟩ := bind_eq_ok.1 read
          cases last
          have held := everywhere_readNumber first
          exact held
        · exact everywhere_readNumber read
    · cases read

/-! ## Entries -/

/-- Entries that a document can hold: no key twice, and values that a document can hold. -/
structure HeldEntries (entries : Entries) : Prop where
  distinct : (entries.map Prod.fst).Nodup
  values : ∀ entry ∈ entries, Everywhere Held entry.2

theorem HeldEntries.insert {entries : Entries} (held : HeldEntries entries) (key : Text)
    (new : Everywhere Held value) : HeldEntries (entries.insert key value) := by
  rw [Entries.insert]
  split
  · refine ⟨?_, fun entry member => ?_⟩
    · have keys : (entries.map fun entry => if entry.1 = key then (key, value) else entry).map
          Prod.fst = entries.map Prod.fst := by
        rw [map_map]
        refine map_congr_left fun entry _ => ?_
        by_cases same : entry.1 = key <;> simp [same]
      exact keys ▸ held.distinct
    · obtain ⟨old, inside, rfl⟩ := mem_map.1 member
      split
      · exact new
      · exact held.values old inside
  · next absent =>
      have fresh : key ∉ entries.map Prod.fst := by
        simpa using absent
      refine ⟨?_, forall_mem_append.2 ⟨held.values, forall_mem_singleton.2 new⟩⟩
      rw [map_append]
      exact held.distinct.append (nodup_singleton key) (by simpa using fresh)

/-! ## Reading -/

mutual

theorem everywhere_readValue : ∀ (s : Text) (taken : Taken Json s), readValue s = .ok taken →
    Everywhere Held taken.value
  | [], taken, read => by
    rw [readValue] at read
    cases read
  | c :: rest, taken, read => by
    rw [readValue] at read
    split at read
    · obtain ⟨text, -, last⟩ := bind_eq_ok.1 read
      cases last
      exact everywhere_scalar rfl trivial
    · split at read
      · split at read
        · cases read
        · next d rest' opened =>
            split at read
            · cases read
              exact everywhere_arr.2 ⟨trivial, nofun⟩
            · have fits := opened ▸ length_skipSpacing rest
              obtain ⟨items, first, last⟩ := bind_eq_ok.1 read
              cases last
              exact everywhere_arr.2 ⟨trivial, everywhere_readItems _ items first⟩
      · split at read
        · split at read
          · cases read
          · next d rest' opened =>
              split at read
              · cases read
                exact everywhere_obj.2 ⟨nodup_nil, nofun⟩
              · have fits := opened ▸ length_skipSpacing rest
                obtain ⟨entries, first, last⟩ := bind_eq_ok.1 read
                cases last
                have held := held_readEntries [] ⟨nodup_nil, nofun⟩ _ entries first
                exact everywhere_obj.2 ⟨held.distinct, held.values⟩
        · exact everywhere_readScalar read
termination_by s => (s.length, 0)
decreasing_by
  all_goals
    simp_wf
    simp only [length_cons] at fits
    omega

theorem everywhere_readItems (s : Text) (taken : Taken (List Json) s)
    (read : readItems s = .ok taken) : ∀ item ∈ taken.value, Everywhere Held item := by
  unfold readItems at read
  obtain ⟨first, head, after⟩ := bind_eq_ok.1 read
  have item := everywhere_readValue s first head
  obtain ⟨value, rest, shorter⟩ := first
  dsimp only at after item
  split at after
  · cases after
  · next c rest' closing =>
      split at after
      · cases after
        exact forall_mem_singleton.2 item
      · split at after
        · have fits := closing ▸ length_skipSpacing rest
          have next := length_skipSpacing rest'
          obtain ⟨items, tail, last⟩ := bind_eq_ok.1 after
          cases last
          exact forall_mem_cons.2 ⟨item, everywhere_readItems _ items tail⟩
        · cases after
termination_by (s.length, 1)
decreasing_by
  · exact Prod.Lex.right _ (by decide)
  · simp only [length_cons] at fits
    omega

theorem held_readEntries (known : Entries) (held : HeldEntries known) : ∀ (s : Text)
    (taken : Taken Entries s), readEntries known s = .ok taken → HeldEntries taken.value
  | [], taken, read => by
    rw [readEntries] at read
    cases read
  | quote :: body, taken, read => by
    rw [readEntries] at read
    split at read
    · obtain ⟨⟨key, rest, first⟩, -, read⟩ := bind_eq_ok.1 read
      dsimp only at read
      split at read
      · cases read
      · next c rest' colon =>
          split at read
          · have second := colon ▸ length_skipSpacing rest
            have third := length_skipSpacing rest'
            obtain ⟨⟨value, after, fourth⟩, found, read⟩ := bind_eq_ok.1 read
            have new := everywhere_readValue _ _ found
            dsimp only at read new
            split at read
            · cases read
            · next d more closing =>
                split at read
                · cases read
                  exact held.insert key new
                · split at read
                  · have fifth := closing ▸ length_skipSpacing after
                    have sixth := length_skipSpacing more
                    obtain ⟨all, tail, last⟩ := bind_eq_ok.1 read
                    cases last
                    exact held_readEntries _ (held.insert key new) _ all tail
                  · cases read
          · cases read
    · cases read
termination_by s => (s.length, 0)
decreasing_by
  all_goals
    simp_wf
    simp only [length_cons] at *
    omega

end

/-- **The integers of a document can be written, and its objects have no key twice.** -/
theorem everywhere_held_of_read {document : Text} (read : Json.read document = .ok value) :
    value.Everywhere Held := by
  rw [Json.read] at read
  split at read
  · cases read
  · rw [readDecoded] at read
    obtain ⟨taken, first, last⟩ := bind_eq_ok.1 read
    have held := everywhere_readValue _ taken first
    dsimp only at last
    split at last
    · cases last
      exact held
    · cases last

end AgentFlow.Json
