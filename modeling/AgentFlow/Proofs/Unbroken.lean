import AgentFlow.Emit.Draft
import AgentFlow.Proofs.Stoppable

/-!
# Work without breakdowns

An error is one that the checks report, or a breakdown of a conversion underneath them.  These are
the rules for work that does not break down.  What a step returns is known where the next one is
judged, since many conversions are safe only because of a check before them.
-/

namespace AgentFlow

open List

/-- Whether an error is reported by a check, and is not a breakdown underneath. -/
def Error.isReported : Error → Bool
  | .breakdown _ => false
  | _ => true

/-- A result that is not a breakdown. -/
def Unbroken {α : Type} (result : Except Error α) : Prop :=
  ∀ found, result = .error found → found.isReported = true

/-- Errors that are put up with.  Those that checks report always are. -/
structure Limits where
  allows : Error → Prop
  reported : ∀ found, found.isReported = true → allows found

/-- No breakdown is put up with. -/
def Limits.strict : Limits := ⟨(·.isReported = true), fun _ => id⟩

/-- A result whose error, if it is one, is put up with. -/
def Within {α : Type} (limits : Limits) (result : Except Error α) : Prop :=
  ∀ found, result = .error found → limits.allows found

variable {limits : Limits}

namespace Within

variable {α β : Type} {items : List α}

theorem ok (value : α) : Within limits (.ok value) := nofun

theorem stop {found : Error} (allowed : limits.allows found) :
    Within limits (.error found : Except Error α) := by
  rintro _ ⟨⟩
  exact allowed

theorem error {found : Error} (reported : found.isReported = true) :
    Within limits (.error found : Except Error α) := stop (limits.reported found reported)

theorem of_eq_ok {result : Except Error α} {value : α} (done : result = .ok value) :
    Within limits result := done ▸ ok value

theorem bind {first : Except Error α} {next : α → Except Error β} (before : Within limits first)
    (after : ∀ value, first = .ok value → Within limits (next value)) :
    Within limits (first >>= next) := by
  cases first with
  | error found => exact stop (before found rfl)
  | ok value => exact after value rfl

theorem mapM {work : α → Except Error β} (each : ∀ item ∈ items, Within limits (work item)) :
    Within limits (items.mapM work) := by
  induction items with
  | nil => exact ok []
  | cons item rest ih =>
    obtain ⟨first, others⟩ := forall_mem_cons.1 each
    rw [mapM_cons]
    exact first.bind fun _ _ => (ih others).bind fun _ _ => ok _

theorem liftShape {result : Except ShapeFault α} (shaped : ∃ value, result = .ok value) :
    Within limits (liftShape result) := by
  obtain ⟨value, rfl⟩ := shaped
  exact ok value

end Within

namespace Unbroken

variable {α β : Type} {first : Except Error α} {next : α → Except Error β} {value : α}

theorem of_eq_ok (done : first = .ok value) : Unbroken first := done ▸ nofun

end Unbroken

theorem liftShape_eq_ok {α : Type} {result : Except ShapeFault α} {value : α} :
    liftShape result = .ok value ↔ result = .ok value := by
  cases result <;> simp [liftShape]

namespace Stoppable

variable {σ α β : Type}

/-- Work whose errors are put up with, whatever the state. -/
def Steady (limits : Limits) (work : Stoppable σ α) : Prop :=
  ∀ state, Within limits (work state).1

namespace Steady

theorem pure (value : α) : Steady limits (Pure.pure value : Stoppable σ α) := fun _ => .ok value

theorem throw {found : Error} (reported : found.isReported = true) :
    Steady limits (MonadExcept.throw found : Stoppable σ α) := fun _ => .error reported

variable {work : Stoppable σ α} {next : α → Stoppable σ β} {items : List α}

theorem bind {property : α → Prop} (first : Steady limits work) (returns : Returns work property)
    (second : ∀ value, property value → Steady limits (next value)) :
    Steady limits (work >>= next) := by
  intro state
  have before := first state
  rw [bind_run]
  rcases run : work state with ⟨found | value, middle⟩
  · rw [run] at before
    exact .stop (before found rfl)
  · exact second value (returns run) middle

theorem then_ (first : Steady limits work) (second : ∀ value, Steady limits (next value)) :
    Steady limits (work >>= next) :=
  first.bind (fun _ _ _ _ => trivial : Returns work fun _ => True) fun value _ => second value

theorem mapM {work : α → Stoppable σ β} (each : ∀ item ∈ items, Steady limits (work item)) :
    Steady limits (items.mapM work) := by
  induction items with
  | nil => exact pure []
  | cons item rest ih =>
    obtain ⟨first, others⟩ := forall_mem_cons.1 each
    rw [mapM_cons]
    exact first.then_ fun _ => (ih others).then_ fun _ => pure _

theorem forM {work : α → Stoppable σ PUnit} (each : ∀ item ∈ items, Steady limits (work item)) :
    Steady limits (items.forM work) := by
  induction items with
  | nil => exact pure _
  | cons item rest ih =>
    obtain ⟨first, others⟩ := forall_mem_cons.1 each
    exact first.then_ fun _ => ih others

end Steady

end Stoppable

namespace Emit

open Stoppable

variable {α β : Type} {result : Except Error α}

theorem liftError_steady (within : Within limits result) : Steady limits (liftError result) := by
  cases result with
  | ok value => exact .pure value
  | error found => exact fun _ => .stop (within found rfl)

theorem liftError_bind_steady {next : α → Build β} (within : Within limits result)
    (after : ∀ value, result = .ok value → Steady limits (next value)) :
    Steady limits (liftError result >>= next) := by
  cases result with
  | ok value => exact after value rfl
  | error found => exact fun _ => .stop (within found rfl)

end Emit

end AgentFlow
