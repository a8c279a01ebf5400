import AgentFlow.Symbol.Table
import Mathlib.Data.List.Perm.Subperm
import Mathlib.Data.List.Nodup

/-!
# Names that are handed out are fresh

A symbol table looks for a free number among one more candidates than there are taken names.
Numbers give different names, so one of the candidates is free, and the name that is handed out is
one that was not taken before.
-/

namespace AgentFlow

open List

theorem Text.ofChars_injective : Function.Injective Text.ofChars := by
  intro chars other same
  exact map_injective_iff.2 (fun _ _ equal => CodePoint.scalar.inj equal) same

theorem Text.ofNat_injective : Function.Injective Text.ofNat := by
  intro number other same
  have digits : Nat.toDigits 10 number = Nat.toDigits 10 other := ofChars_injective same
  have values := congrArg (Nat.ofDigitChars 10 · 0) digits
  simpa only [Nat.ofDigitChars_ten_toDigits] using values

namespace SymbolTable

variable {table later : SymbolTable} {base name : Text}

theorem numbered_injective (base : Text) : Function.Injective (numbered base) := fun _ _ same =>
  Text.ofNat_injective (append_cancel_left same)

theorem numbered_nextNumber (taken : List Text) (base : Text) (last : Nat) :
    numbered base (nextNumber taken base last) ∉ taken := by
  have candidates : ∃ number ∈ (List.range (taken.length + 1)).map (last + 1 + ·),
      numbered base number ∉ taken := by
    by_contra! all
    have distinct : (((List.range (taken.length + 1)).map (last + 1 + ·)).map
        (numbered base)).Nodup :=
      (nodup_range.map fun _ _ same => Nat.add_left_cancel same).map (numbered_injective base)
    have inside := subperm_of_subset distinct fun name listed => by
      obtain ⟨number, member, rfl⟩ := mem_map.1 listed
      exact all number member
    have few := inside.length_le
    simp only [length_map, length_range] at few
    omega
  unfold nextNumber
  cases found : ((List.range (taken.length + 1)).map (last + 1 + ·)).find? fun number =>
      numbered base number ∉ taken with
  | none =>
    obtain ⟨number, member, free⟩ := candidates
    exact absurd free (by simpa using find?_eq_none.1 found number member)
  | some number => simpa using find?_some found

/-- **A name that is handed out was not taken, and is taken afterwards.** -/
theorem allocate_fresh (handed : table.allocate base = some (name, later)) :
    name ∉ table.taken ∧ later.taken = table.taken ++ [name] := by
  unfold allocate at handed
  split at handed
  · cases handed
  · split at handed
    · split at handed
      · rename_i free
        cases handed
        exact ⟨free, rfl⟩
      · cases handed
        exact ⟨numbered_nextNumber _ _ _, rfl⟩
    · cases handed
      exact ⟨numbered_nextNumber _ _ _, rfl⟩

end SymbolTable

end AgentFlow
