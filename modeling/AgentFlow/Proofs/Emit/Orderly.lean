import AgentFlow.Proofs.Emit.Agreeing
import AgentFlow.Proofs.Symbol.Fresh

/-!
# Emitting a node only hands out names

Before what a node emits is added to the module, its emitter has only handed out names: the module
is as it was, and a name that was taken still is.  These are the rules for work of that kind.
-/

namespace AgentFlow.Emit

open Workflow Stoppable

/-- Work on a draft has handed out names at most, has not stopped with an internal error, and has
returned what the names taken afterwards go with. -/
structure Ordered {α : Type} (draft : Draft) (goes : List Text → α → Prop)
    (outcome : Except Error α × Draft) : Prop where
  keeps : outcome.2.module = draft.module
  grows : draft.symbols.taken ⊆ outcome.2.symbols.taken
  external : ∀ found, outcome.1 = .error found → found.isInternal = false
  returns : ∀ value, outcome.1 = .ok value → goes outcome.2.symbols.taken value

/-- Work that does so on every draft in which the given names are taken. -/
def Orderly {α : Type} (taken : List Text) (goes : List Text → α → Prop) (work : Build α) : Prop :=
  ∀ draft, draft.symbols.taken = taken → Ordered draft goes (work draft)

def Anything {α : Type} : List Text → α → Prop := fun _ _ => True

namespace Orderly

variable {α β : Type} {taken : List Text} {goes : List Text → α → Prop}
  {last : List Text → β → Prop} {first : Build α} {next : α → Build β}

theorem pure {value : α} (holds : goes taken value) : Orderly taken goes (Pure.pure value) := by
  rintro draft rfl
  refine ⟨rfl, List.Subset.refl _, nofun, fun other same => ?_⟩
  cases same
  exact holds

theorem bind (before : Orderly taken goes first)
    (after : ∀ value later, taken ⊆ later → goes later value → Orderly later last (next value)) :
    Orderly taken last (first >>= next) := by
  intro draft start
  have step := before draft start
  rw [bind_run]
  rcases result : first draft with ⟨error | value, middle⟩
  · rw [result] at step
    refine ⟨step.keeps, step.grows, fun found failed => ?_, fun _ same => by cases same⟩
    exact step.external found (by cases failed; rfl)
  · rw [result] at step
    have rest := after value _ (start ▸ step.grows) (step.returns value rfl) middle rfl
    exact ⟨rest.keeps.trans step.keeps, List.Subset.trans step.grows rest.grows, rest.external,
      rest.returns⟩

theorem then_ (before : Orderly taken goes first)
    (after : ∀ value later, taken ⊆ later → Orderly later last (next value)) :
    Orderly taken last (first >>= next) :=
  before.bind fun value later grown _ => after value later grown

theorem mono {work : Build α} {wider : List Text → α → Prop} (orderly : Orderly taken goes work)
    (implies : ∀ later value, goes later value → wider later value) :
    Orderly taken wider work := fun draft start =>
  let ordered := orderly draft start
  ⟨ordered.keeps, ordered.grows, ordered.external,
    fun value same => implies _ value (ordered.returns value same)⟩

theorem mapM {work : α → Build β} (each : ∀ item taken, Orderly taken last (work item))
    (items : List α) (taken : List Text) : Orderly taken Anything (items.mapM work) := by
  induction items generalizing taken with
  | nil => exact pure trivial
  | cons item rest ih =>
    rw [List.mapM_cons]
    exact (each item taken).then_ fun _ later _ => (ih later).then_ fun _ _ _ => pure trivial

end Orderly

theorem liftError_orderly {α : Type} {result other : Except Error α} (agree : Agree result other)
    (taken : List Text) :
    Orderly taken (fun later value => later = taken ∧ result = .ok value) (liftError result) := by
  cases agree with
  | ok value => exact .pure ⟨rfl, rfl⟩
  | error external =>
    refine fun _ _ => ⟨rfl, List.Subset.refl _, fun found failed => ?_, fun _ same => by cases same⟩
    cases failed
    exact external

theorem allocate_run (base : Text) (draft : Draft) :
    allocate base draft = match draft.symbols.allocate base with
      | some (name, symbols) =>
        (.ok name, { draft with symbols, log := draft.log ++
          [⟨symbolLogger, .debug, "allocated symbol " ++ name⟩] })
      | none => (.error (.breakdown (.symbolBase base)), draft) := by
  unfold allocate
  rw [get_bind_run]
  cases draft.symbols.allocate base <;> rfl

theorem allocate_orderly (base : Text) (taken : List Text) :
    Orderly taken (fun later name => name ∉ taken ∧ later = taken ++ [name]) (allocate base) := by
  rintro draft rfl
  rw [allocate_run]
  cases handed : draft.symbols.allocate base with
  | none =>
    refine ⟨rfl, List.Subset.refl _, fun found failed => ?_, fun _ same => by cases same⟩
    cases failed
    rfl
  | some result =>
    obtain ⟨name, symbols⟩ := result
    obtain ⟨free, later⟩ := SymbolTable.allocate_fresh handed
    refine ⟨rfl, later ▸ List.subset_append_left _ _, nofun, ?_⟩
    intro value same
    cases same
    exact ⟨free, later⟩

end AgentFlow.Emit
