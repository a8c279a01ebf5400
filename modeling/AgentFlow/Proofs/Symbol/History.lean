import AgentFlow.Json.Reader
import AgentFlow.Proofs.Symbol.Alike
import Mathlib.Order.Bounds.Defs

/-!
# Symbol tables over a history

A table is asked for names and told to reserve names.  What it does next is said by the log of its
answers: which names are unavailable, and which number stood last for a base.  Names of one base run
into those of others (`agent` with 11 is `agent1` with 1), so log and table have to agree on all
bases at once.
-/

namespace AgentFlow.SymbolTable

open List
open SymbolTable (take)

/-- What can be asked of a table. -/
inductive Request where
  | reserve (name : Text)
  | allocate (base : Text)

/-- What a request came to: a name was reserved, a name was handed out for a base, or a base was
refused. -/
inductive Entry where
  | reserved (name : Text)
  | handed (base name : Text)
  | refused (base : Text)

/-- Serves a request and writes what it came to at the end of the log. -/
def serve : List Entry × SymbolTable → Request → List Entry × SymbolTable
  | (log, table), .reserve name => (log ++ [.reserved name], table.reserve name)
  | (log, table), .allocate base =>
    match table.allocate base with
    | some (name, later) => (log ++ [.handed base name], later)
    | none => (log ++ [.refused base], table)

/-- The log and the table after some requests to a table with reserved names. -/
def history (names : List Text) (requests : List Request) : List Entry × SymbolTable :=
  requests.foldl serve ([], ofReserved names)

/-! ## What a log says -/

def Entry.name? : Entry → Option Text
  | .reserved name => some name
  | .handed _ name => some name
  | .refused _ => none

def Entry.handed? : Entry → Option Text
  | .handed _ name => some name
  | _ => none

def Entry.handedFor? (base : Text) : Entry → Option Text
  | .handed asked name => if asked = base then some name else none
  | _ => none

/-- The names that cannot be handed out any more. -/
def unavailable (names : List Text) (log : List Entry) : List Text :=
  names ++ log.filterMap Entry.name?

/-- The names that were handed out for a base, in order. -/
def handedFor (base : Text) (log : List Entry) : List Text :=
  log.filterMap (Entry.handedFor? base)

/-- The number that stands after a base in a name, 0 if there is none. -/
def suffix (base name : Text) : Nat := Json.digitsValue (name.drop base.length)

/-- The number after the base in the last name that was handed out for it, 0 if there is none. -/
def lastSuffix (base : Text) (log : List Entry) : Nat :=
  ((handedFor base log).getLast?.map (suffix base)).getD 0

/-- Counting up from a number comes to one that makes a free name from a base. -/
inductive CountsTo (taken : List Text) (base : Text) : Nat → Nat → Prop
  | found {last} (free : numbered base (last + 1) ∉ taken) : CountsTo taken base last (last + 1)
  | skipped {last number} (used : numbered base (last + 1) ∈ taken)
      (rest : CountsTo taken base (last + 1) number) : CountsTo taken base last number

/-- What a name has to be that is handed out for a base after some log. -/
structure Proper (names : List Text) (log : List Entry) (base name : Text) : Prop where
  fresh : name ∉ unavailable names log
  bare : name = base ↔ handedFor base log = [] ∧ base ∉ unavailable names log
  least : name ≠ base → ∃ number, name = numbered base number ∧
    CountsTo (unavailable names log) base (lastSuffix base log) number ∧
    IsLeast {number | lastSuffix base log < number ∧
      numbered base number ∉ unavailable names log} number

variable {names : List Text} {log : List Entry} {table later : SymbolTable} {base name : Text}

@[simp] theorem unavailable_append (names : List Text) (log : List Entry) (entry : Entry) :
    unavailable names (log ++ [entry]) = unavailable names log ++ entry.name?.toList := by
  cases shown : entry.name? <;> simp [unavailable, shown]

@[simp] theorem handedFor_append (base : Text) (log : List Entry) (entry : Entry) :
    handedFor base (log ++ [entry]) = handedFor base log ++ (entry.handedFor? base).toList := by
  cases shown : entry.handedFor? base <;> simp [handedFor, shown]

theorem mem_unavailable_of_handed (listed : name ∈ log.filterMap Entry.handed?) :
    name ∈ unavailable names log := by
  obtain ⟨entry, member, shown⟩ := mem_filterMap.1 listed
  refine mem_append_right _ (mem_filterMap.2 ⟨entry, member, ?_⟩)
  cases entry with
  | handed base found => exact shown
  | reserved found => cases shown
  | refused base => cases shown

theorem le_lastSuffix {number : Nat}
    (rising : ((handedFor base log).map (suffix base)).Pairwise (· < ·))
    (listed : number ∈ (handedFor base log).map (suffix base)) : number ≤ lastSuffix base log := by
  rw [lastSuffix, ← getLast?_map]
  obtain ⟨front, last, shape⟩ :=
    (eq_nil_or_concat' _).resolve_left (ne_nil_of_mem listed)
  rw [shape] at rising listed ⊢
  obtain earlier | rfl : number ∈ front ∨ number = last := by simpa using listed
  · have below := (pairwise_append.1 rising).2.2 _ earlier last (by simp)
    simpa using Nat.le_of_lt below
  · simp

/-! ## Numbers after a base -/

theorem digitsValue_ofNat (number : Nat) : Json.digitsValue (Text.ofNat number) = number := by
  have digits : ∀ (value : Nat) (chars : List Char), (Text.ofChars chars).foldl
      (fun value c => value * 10 + (c.toNat - '0'.toNat)) value =
        Nat.ofDigitChars 10 chars value := by
    intro value chars
    induction chars generalizing value with
    | nil => rfl
    | cons c rest ih =>
      simpa [Text.ofChars, CodePoint.toNat, Nat.ofDigitChars, Nat.mul_comm] using ih _
  exact (digits 0 _).trans Nat.ofDigitChars_ten_toDigits

@[simp] theorem suffix_self (base : Text) : suffix base base = 0 := by
  simp [suffix, Json.digitsValue]

@[simp] theorem suffix_numbered (base : Text) (number : Nat) :
    suffix base (numbered base number) = number := by
  simp [suffix, numbered, digitsValue_ofNat]

theorem ne_of_suffix {base name : Text} (positive : 0 < suffix base name) : name ≠ base := by
  rintro rfl
  simp at positive

/-- The search that counts up by one ends, at the number that is found among the candidates. -/
theorem countsTo_nextNumber (taken : List Text) (base : Text) (last : Nat) :
    CountsTo taken base last (nextNumber taken base last) := by
  -- By induction on how far the number that is found lies ahead.
  obtain ⟨distance, ahead⟩ : ∃ distance, nextNumber taken base last = last + 1 + distance :=
    ⟨_, (find?_candidates taken base last).choose_spec.1⟩
  induction distance generalizing last with
  | zero =>
    have free := numbered_nextNumber taken base last
    rw [ahead] at free ⊢
    exact .found free
  | succ distance ih =>
    have used : numbered base (last + 1) ∈ taken := by
      by_contra free
      have near := nextNumber_le (Nat.lt_succ_self last) free
      omega
    have same : nextNumber taken base (last + 1) = nextNumber taken base last := by
      refine Nat.le_antisymm (nextNumber_le (by omega) (numbered_nextNumber _ _ _)) ?_
      have above := lt_nextNumber taken base (last + 1)
      exact nextNumber_le (by omega) (numbered_nextNumber _ _ _)
    exact .skipped used (same ▸ ih (last + 1) (by omega))

theorem isLeast_nextNumber (taken : List Text) (base : Text) (last : Nat) :
    IsLeast {number | last < number ∧ numbered base number ∉ taken} (nextNumber taken base last) :=
  ⟨⟨lt_nextNumber _ _ _, numbered_nextNumber _ _ _⟩,
    fun _ ⟨above, free⟩ => nextNumber_le above free⟩

/-! ## One request -/

theorem allocate_eq_none : table.allocate base = none ↔ isBase base = false := by
  unfold allocate
  split
  · simp_all
  · split
    · split <;> simp_all
    · simp_all

/-- All that handing out a name can do. -/
theorem allocate_cases (handed : table.allocate base = some (name, later)) :
    ∃ number, later = table.take base name number ∧
      ((name = base ∧ number = 0 ∧ table.counters.lookup base = none ∧ base ∉ table.taken) ∨
        (name = numbered base number ∧
          number = nextNumber table.taken base ((table.counters.lookup base).getD 0) ∧
          ¬ (table.counters.lookup base = none ∧ base ∉ table.taken))) := by
  unfold allocate at handed
  split at handed
  · cases handed
  · split at handed
    · rename_i unused
      split at handed
      · rename_i free
        cases handed
        exact ⟨0, rfl, .inl ⟨rfl, rfl, unused, free⟩⟩
      · rename_i used
        cases handed
        exact ⟨_, rfl, .inr ⟨rfl, by rw [unused]; rfl, fun both => used both.2⟩⟩
    · rename_i last counted
      cases handed
      exact ⟨_, rfl, .inr ⟨rfl, by rw [counted]; rfl, fun both => by simp [counted] at both⟩⟩

/-- How a table agrees with the log of what it has answered. -/
structure Kept (names : List Text) (log : List Entry) (table : SymbolTable) : Prop where
  taken : ∀ name, name ∈ table.taken ↔ name ∈ unavailable names log
  counters : ∀ base, table.counters.lookup base = (handedFor base log).getLast?.map (suffix base)
  allocated : table.allocated = log.filterMap Entry.handed?
  distinct : table.allocated.Nodup
  rising : ∀ base, ((handedFor base log).map (suffix base)).Pairwise (· < ·)

theorem Kept.ofReserved (names : List Text) : Kept names [] (ofReserved names) := by
  obtain ⟨counters, allocated⟩ := reserveAll_counters names {}
  refine ⟨fun name => ?_, fun base => ?_, ?_, ?_, fun base => ?_⟩
  · simp [SymbolTable.ofReserved, mem_reserveAll, unavailable]
  · simp [SymbolTable.ofReserved, counters, handedFor]
  · simpa [SymbolTable.ofReserved] using allocated
  · simp [SymbolTable.ofReserved, allocated]
  · simp [handedFor]

variable (kept : Kept names log table)
include kept

theorem Kept.counted (base : Text) :
    (table.counters.lookup base).getD 0 = lastSuffix base log := by
  rw [kept.counters, lastSuffix]

theorem Kept.unused (base : Text) :
    table.counters.lookup base = none ↔ handedFor base log = [] := by
  rw [kept.counters, Option.map_eq_none_iff, getLast?_eq_none_iff]

/-- **A name that a table hands out is the one its log asks for.** -/
theorem Kept.proper (handed : table.allocate base = some (name, later)) :
    Proper names log base name := by
  have fresh : name ∉ unavailable names log :=
    fun listed => (allocate_fresh handed).1 ((kept.taken name).2 listed)
  have same : ∀ last, nextNumber table.taken base last =
      nextNumber (unavailable names log) base last := nextNumber_congr kept.taken base
  obtain ⟨number, -, ⟨rfl, -, unused, free⟩ | ⟨rfl, search, differs⟩⟩ := allocate_cases handed
  · exact ⟨fresh, by simpa [← kept.unused, unused] using fresh, fun other => absurd rfl other⟩
  · rw [kept.counted, same] at search
    subst search
    have positive := Nat.zero_lt_of_lt (lt_nextNumber (unavailable names log) base
      (lastSuffix base log))
    refine ⟨fresh, iff_of_false (ne_of_suffix (by simpa using positive)) fun both => ?_,
      fun _ => ⟨_, rfl, countsTo_nextNumber _ _ _, isLeast_nextNumber _ _ _⟩⟩
    exact differs ⟨(kept.unused base).2 both.1, fun listed => both.2 ((kept.taken base).1 listed)⟩

/-- The number of a name that is handed out is the one the table notes, and it is above all those
of earlier names for the base. -/
theorem Kept.above (handed : table.allocate base = some (name, later)) :
    later = table.take base name (suffix base name) ∧
      ∀ number ∈ (handedFor base log).map (suffix base), number < suffix base name := by
  obtain ⟨number, rfl, ⟨rfl, rfl, unused, -⟩ | ⟨rfl, search, -⟩⟩ := allocate_cases handed
  · rw [suffix_self, (kept.unused _).1 unused]
    exact ⟨rfl, by simp⟩
  · rw [suffix_numbered]
    refine ⟨rfl, fun earlier listed => ?_⟩
    have above := lt_nextNumber table.taken base ((table.counters.lookup base).getD 0)
    rw [← search, kept.counted] at above
    exact Nat.lt_of_le_of_lt (le_lastSuffix (kept.rising base) listed) above

theorem Kept.reserve (name : Text) :
    Kept names (log ++ [.reserved name]) (table.reserve name) := by
  obtain ⟨counters, allocated⟩ := reserve_counters table name
  refine ⟨fun wanted => ?_, fun base => ?_, ?_, ?_, fun base => ?_⟩
  · simp [mem_reserve, kept.taken, Entry.name?]
  · simp [counters, kept.counters, Entry.handedFor?]
  · simp [allocated, kept.allocated, Entry.handed?]
  · simpa [allocated] using kept.distinct
  · simpa [Entry.handedFor?] using kept.rising base

theorem Kept.hand (handed : table.allocate base = some (name, later)) :
    Kept names (log ++ [.handed base name]) later := by
  obtain ⟨rfl, above⟩ := kept.above handed
  refine ⟨fun wanted => ?_, fun asked => ?_, ?_, ?_, fun asked => ?_⟩
  · simp [take, kept.taken, Entry.name?]
  · by_cases same : asked = base
    · subst same
      simp [take, Entry.handedFor?]
    · simp [take, lookup_cons, Entry.handedFor?, beq_false_of_ne same, Ne.symm same, kept.counters]
  · simp [take, kept.allocated, Entry.handed?]
  · have earlier : name ∉ table.allocated := by
      rw [kept.allocated]
      exact fun listed => (kept.proper handed).fresh (mem_unavailable_of_handed listed)
    exact nodup_append_comm.1 (nodup_cons.2 ⟨earlier, kept.distinct⟩)
  · by_cases same : asked = base
    · subst same
      simpa [Entry.handedFor?, pairwise_append, kept.rising] using above
    · simpa [Entry.handedFor?, Ne.symm same] using kept.rising asked

theorem Kept.refuse (base : Text) :
    Kept names (log ++ [.refused base]) table := by
  refine ⟨fun name => ?_, fun asked => ?_, ?_, kept.distinct, fun asked => ?_⟩
  · simp [kept.taken, Entry.name?]
  · simp [kept.counters, Entry.handedFor?]
  · simp [kept.allocated, Entry.handed?]
  · simpa [Entry.handedFor?] using kept.rising asked

/-- **Every request keeps a table in agreement with its log.** -/
theorem Kept.serve (request : Request) :
    Kept names (SymbolTable.serve (log, table) request).1
      (SymbolTable.serve (log, table) request).2 := by
  cases request with
  | reserve name => exact kept.reserve name
  | allocate base =>
    cases handed : table.allocate base with
    | none => simpa [SymbolTable.serve, handed] using kept.refuse base
    | some answer => simpa [SymbolTable.serve, handed] using kept.hand handed

omit kept

/-- A table agrees with its log after any requests. -/
theorem kept_history (names : List Text) (requests : List Request) :
    Kept names (history names requests).1 (history names requests).2 :=
  List.foldlRecOn (motive := fun state => Kept names state.1 state.2) requests SymbolTable.serve
    (Kept.ofReserved names) fun _ kept request _ => Kept.serve kept request

theorem history_append (names : List Text) (requests : List Request) (request : Request) :
    history names (requests ++ [request]) = SymbolTable.serve (history names requests) request := by
  simp [history]

/-- **After any requests, a table has handed out different names, for each base with rising numbers;
asked for one more name it gives the one its log asks for, and a base that no name can be made from
changes nothing.** -/
theorem handed_out_fresh_and_least (names : List Text) (requests : List Request) :
    (history names requests).2.allocated =
        (history names requests).1.filterMap Entry.handed? ∧
      (history names requests).2.allocated.Nodup ∧
      (∀ base, ((handedFor base (history names requests).1).map (suffix base)).Pairwise (· < ·)) ∧
      (∀ base, isBase base = true → ∃ name later,
        history names (requests ++ [.allocate base]) =
            ((history names requests).1 ++ [.handed base name], later) ∧
          Proper names (history names requests).1 base name) ∧
      ∀ base, isBase base = false →
        history names (requests ++ [.allocate base]) =
          ((history names requests).1 ++ [.refused base], (history names requests).2) := by
  have kept := kept_history names requests
  refine ⟨kept.allocated, kept.distinct, kept.rising, fun base usable => ?_,
    fun base unusable => ?_⟩
  · cases handed : (history names requests).2.allocate base with
    | none => simp [allocate_eq_none, usable] at handed
    | some answer =>
      refine ⟨answer.1, answer.2, ?_, kept.proper handed⟩
      simp [history_append, SymbolTable.serve, handed]
  · simp [history_append, SymbolTable.serve, allocate_eq_none.2 unusable]

end AgentFlow.SymbolTable
