import AgentFlow.Proofs.Stoppable
import Mathlib.Data.List.Forall2

/-!
# Two pieces of work side by side

To say that two runs come to the same, though they are about different things, their states and what
they return are related step by step: if the first piece of work returns from a state, the second
one returns from every state that is like it.
-/

namespace AgentFlow

open List

variable {α β : Type}

theorem exists_of_mem_right {relation : α → β → Prop} {lefts : List α} {rights : List β}
    (related : List.Forall₂ relation lefts rights) {right : β} (member : right ∈ rights) :
    ∃ left ∈ lefts, relation left right := by
  induction related with
  | nil => cases member
  | cons first _ ih =>
    rcases mem_cons.1 member with rfl | member
    · exact ⟨_, mem_cons_self, first⟩
    · obtain ⟨left, listed, holds⟩ := ih member
      exact ⟨left, mem_cons_of_mem _ listed, holds⟩

theorem exists_of_mem_left {relation : α → β → Prop} {lefts : List α} {rights : List β}
    (related : List.Forall₂ relation lefts rights) {left : α} (member : left ∈ lefts) :
    ∃ right ∈ rights, relation left right :=
  exists_of_mem_right (List.Forall₂.flip related) member

theorem exists_forall₂_iff {relates : α → β → Prop} {items : List α} :
    (∃ results, List.Forall₂ relates items results) ↔
      ∀ item ∈ items, ∃ result, relates item result := by
  induction items with
  | nil => simp
  | cons item rest ih =>
    simp only [forall_mem_cons, ← ih, forall₂_cons_left_iff]
    grind

theorem forall₂_of_mapM {work : α → Except Error β} {items : List α} {results : List β}
    (done : items.mapM work = .ok results) :
    List.Forall₂ (fun item result => work item = .ok result) items results := by
  induction items generalizing results with
  | nil =>
    cases done
    exact .nil
  | cons item rest ih =>
    rw [mapM_cons] at done
    obtain ⟨first, worked, more⟩ := Except.bind_eq_ok.1 done
    obtain ⟨others, worked', same⟩ := Except.bind_eq_ok.1 more
    cases same
    exact .cons worked (ih worked')

namespace Stoppable

variable {σ σ' α α' β β' : Type} {alike : σ → σ' → Prop}

/-- Where the first piece of work returns, so does the second, from a state that is alike and with a
result that goes with the first one. -/
def Alongside (alike : σ → σ' → Prop) (goes : α → α' → Prop) (work : Stoppable σ α)
    (other : Stoppable σ' α') : Prop :=
  ∀ ⦃state : σ⦄ ⦃state' : σ'⦄, alike state state' → ∀ ⦃value : α⦄ ⦃last : σ⦄,
    work state = (.ok value, last) →
      ∃ value' last', other state' = (.ok value', last') ∧ goes value value' ∧ alike last last'

namespace Alongside

variable {goes near : α → α' → Prop} {goes' : β → β' → Prop} {work : Stoppable σ α}
  {other : Stoppable σ' α'} {next each : α → Stoppable σ β} {next' : α' → Stoppable σ' β'}
  {items : List α} {items' : List α'}

theorem pure {value : α} {value' : α'} (holds : goes value value') :
    Alongside alike goes (Pure.pure value) (Pure.pure value') := by
  intro state state' same result last done
  cases done
  exact ⟨value', state', rfl, holds, same⟩

theorem throw (found : Error) : Alongside alike goes (MonadExcept.throw found) other := by
  intro state state' same result last done
  cases done

theorem get : Alongside alike alike (MonadState.get : Stoppable σ σ) MonadState.get := by
  intro state state' same value last done
  cases done
  exact ⟨state', state', rfl, same, same⟩

theorem bind (first : Alongside alike goes work other)
    (second : ∀ value value', goes value value' →
      Alongside alike goes' (next value) (next' value')) :
    Alongside alike goes' (work >>= next) (other >>= next') := by
  intro state state' same result last done
  obtain ⟨value, middle, returned, rest⟩ := bind_eq_ok.1 done
  obtain ⟨value', middle', returned', related, same'⟩ := first same returned
  obtain ⟨result', last', done', related', same''⟩ := second value value' related same' rest
  exact ⟨result', last', bind_eq_ok.2 ⟨value', middle', returned', done'⟩, related', same''⟩

theorem then_ {other : Stoppable σ' α} {next' : α → Stoppable σ' β'}
    (first : Alongside alike Eq work other)
    (second : ∀ value, Alongside alike goes' (next value) (next' value)) :
    Alongside alike goes' (work >>= next) (other >>= next') := by
  refine first.bind fun value value' same => ?_
  subst same
  exact second value

theorem mono {wider : α → α' → Prop} (along : Alongside alike goes work other)
    (implies : ∀ value value', goes value value' → wider value value') :
    Alongside alike wider work other := by
  intro state state' same value last done
  obtain ⟨value', last', done', related, same'⟩ := along same done
  exact ⟨value', last', done', implies _ _ related, same'⟩

theorem mapM {each' : α' → Stoppable σ' β'}
    (steps : ∀ item item', near item item' → Alongside alike goes' (each item) (each' item'))
    (pairs : List.Forall₂ near items items') :
    Alongside alike (List.Forall₂ goes') (items.mapM each) (items'.mapM each') := by
  induction pairs with
  | nil => exact pure .nil
  | cons pair _ ih =>
    rw [mapM_cons, mapM_cons]
    exact (steps _ _ pair).bind fun _ _ head => ih.bind fun _ _ tail => pure (.cons head tail)

theorem mapM_same {each' : α → Stoppable σ' β}
    (steps : ∀ item, Alongside alike Eq (each item) (each' item)) (items : List α) :
    Alongside alike Eq (items.mapM each) (items.mapM each') := by
  induction items with
  | nil => exact pure rfl
  | cons item rest ih =>
    rw [mapM_cons, mapM_cons]
    exact (steps item).then_ fun _ => ih.then_ fun _ => pure rfl

theorem forM {each : α → Stoppable σ Unit} {each' : α' → Stoppable σ' Unit}
    (steps : ∀ item item', near item item' → Alongside alike Eq (each item) (each' item'))
    (pairs : List.Forall₂ near items items') :
    Alongside alike Eq (items.forM each) (items'.forM each') := by
  induction pairs with
  | nil => exact pure rfl
  | cons pair _ ih => exact (steps _ _ pair).then_ fun _ => ih

end Alongside

end Stoppable

end AgentFlow
