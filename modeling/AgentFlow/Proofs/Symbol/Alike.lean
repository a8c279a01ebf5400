import AgentFlow.Proofs.Symbol.Fresh

/-!
# Names do not depend on the order of the taken ones

A symbol table lists the taken names in some order, but a name that is handed out depends on which
names are taken only: a free number is the least one, however far is searched for it.
-/

namespace AgentFlow.SymbolTable

open List

variable {table other later : SymbolTable} {base name : Text} {taken taken' : List Text}

theorem find?_candidates (taken : List Text) (base : Text) (last : Nat) :
    ∃ offset, nextNumber taken base last = last + 1 + offset ∧
      ∀ earlier < offset, numbered base (last + 1 + earlier) ∈ taken := by
  unfold nextNumber
  rw [find?_map]
  cases found : (List.range (taken.length + 1)).find?
      ((fun number => decide (numbered base number ∉ taken)) ∘ (last + 1 + ·)) with
  | none => exact ⟨0, rfl, fun earlier below => absurd below (Nat.not_lt_zero _)⟩
  | some offset =>
    refine ⟨offset, rfl, fun earlier below => ?_⟩
    simpa using (find?_range_eq_some.1 found).2.2 earlier below

theorem nextNumber_le {last number : Nat} (above : last < number)
    (free : numbered base number ∉ taken) : nextNumber taken base last ≤ number := by
  obtain ⟨offset, same, earlier⟩ := find?_candidates taken base last
  by_contra! larger
  have taken := earlier (number - (last + 1)) (by omega)
  rw [show last + 1 + (number - (last + 1)) = number by omega] at taken
  exact free taken

theorem lt_nextNumber (taken : List Text) (base : Text) (last : Nat) :
    last < nextNumber taken base last := by
  obtain ⟨offset, same, _⟩ := find?_candidates taken base last
  omega

theorem nextNumber_congr (same : ∀ name, name ∈ taken ↔ name ∈ taken') (base : Text) (last : Nat) :
    nextNumber taken base last = nextNumber taken' base last := by
  refine Nat.le_antisymm ?_ ?_
  · exact nextNumber_le (lt_nextNumber _ _ _) fun here =>
      numbered_nextNumber taken' base last ((same _).1 here)
  · exact nextNumber_le (lt_nextNumber _ _ _) fun here =>
      numbered_nextNumber taken base last ((same _).2 here)

/-- Tables that differ at most in the order of the taken names. -/
structure Alike (table other : SymbolTable) : Prop where
  taken : ∀ name, name ∈ table.taken ↔ name ∈ other.taken
  counters : table.counters = other.counters
  allocated : table.allocated = other.allocated

theorem Alike.take (alike : table.Alike other) (base name : Text) (number : Nat) :
    (table.take base name number).Alike (other.take base name number) where
  taken wanted := by simp [SymbolTable.take, alike.taken]
  counters := by simp [SymbolTable.take, alike.counters]
  allocated := by simp [SymbolTable.take, alike.allocated]

/-- **Tables that are alike hand out the same name.** -/
theorem Alike.allocate (alike : table.Alike other)
    (handed : table.allocate base = some (name, later)) :
    ∃ later', other.allocate base = some (name, later') ∧ later.Alike later' := by
  unfold SymbolTable.allocate at handed ⊢
  rw [← alike.counters]
  simp only [← nextNumber_congr alike.taken, ← alike.taken]
  split at handed
  · cases handed
  · rename_i usable
    rw [if_neg usable]
    split at handed
    · split at handed
      · rename_i free
        cases handed
        exact ⟨_, if_pos free, alike.take _ _ _⟩
      · rename_i used
        cases handed
        exact ⟨_, if_neg used, alike.take _ _ _⟩
    · cases handed
      exact ⟨_, rfl, alike.take _ _ _⟩

/-! ## Reserving names -/

theorem reserve_counters (table : SymbolTable) (name : Text) :
    (table.reserve name).counters = table.counters ∧
      (table.reserve name).allocated = table.allocated := by
  unfold reserve
  split <;> exact ⟨rfl, rfl⟩

theorem mem_reserve {wanted : Text} :
    wanted ∈ (table.reserve name).taken ↔ wanted ∈ table.taken ∨ wanted = name := by
  unfold reserve
  split
  · rename_i known
    refine ⟨.inl, ?_⟩
    rintro (here | rfl)
    · exact here
    · exact known
  · simp

theorem mem_reserveAll {wanted : Text} (names : List Text) :
    wanted ∈ (names.foldl reserve table).taken ↔ wanted ∈ table.taken ∨ wanted ∈ names := by
  induction names generalizing table with
  | nil => simp
  | cons name rest ih => rw [foldl_cons, ih, mem_reserve, mem_cons, or_assoc]

theorem reserveAll_counters (names : List Text) (table : SymbolTable) :
    (names.foldl reserve table).counters = table.counters ∧
      (names.foldl reserve table).allocated = table.allocated := by
  induction names generalizing table with
  | nil => exact ⟨rfl, rfl⟩
  | cons name rest ih =>
    obtain ⟨counters, allocated⟩ := reserve_counters table name
    exact ⟨(ih _).1.trans counters, (ih _).2.trans allocated⟩

theorem reserveAll_alike (table : SymbolTable) {names names' : List Text}
    (same : ∀ name, name ∈ names ↔ name ∈ names') :
    (names.foldl reserve table).Alike (names'.foldl reserve table) where
  taken name := by rw [mem_reserveAll, mem_reserveAll, same]
  counters := by rw [(reserveAll_counters _ _).1, (reserveAll_counters _ _).1]
  allocated := by rw [(reserveAll_counters _ _).2, (reserveAll_counters _ _).2]

end AgentFlow.SymbolTable
