import AgentFlow.Statement.Basic
import Mathlib.Data.List.Infix

/-!
# Runs and their behaviour

What can be seen of a run is the sequence of its events and how it ends.  Two machines behave alike
when their runs with the same oracle show the same events and end alike.  It is enough to relate
their states at points that both keep coming to, with at least one step between two such points.
-/

namespace AgentFlow.Run

open List

/-- The answers to the conditions that a run evaluates, one after the other. -/
abbrev Oracle := Nat → Bool

def Oracle.rest (oracle : Oracle) : Oracle := fun index => oracle (index + 1)

/-- What can be seen of a run: a statement is executed, or a condition is evaluated. -/
inductive Event where
  | run (statement : Statement)
  | ask (condition : Text) (answer : Bool)

/-- How a run ends: it returns a value, or there is nothing left to do. -/
inductive Ending where
  | returned (value : Text)
  | nowhere

/-- How a machine goes on after a step. -/
inductive Next (σ : Type) where
  | onward (state : σ) (oracle : Oracle)
  | ended (ending : Ending)

/-- A machine: what a step shows, and how it goes on. -/
abbrev Machine (σ : Type) := Oracle → σ → List Event × Next σ

variable {σ τ : Type}

/-- The events of so many steps, and the ending if the machine comes to it. -/
def run (machine : Machine σ) : Nat → Oracle → σ → List Event × Option Ending
  | 0, _, _ => ([], none)
  | steps + 1, oracle, state =>
    match machine oracle state with
    | (events, .ended ending) => (events, some ending)
    | (events, .onward state oracle) =>
      let (more, ending) := run machine steps oracle state
      (events ++ more, ending)

/-- Two machines behave alike from two states on: whatever one shows, the other comes to show, they
end after the same events, in the same way, and neither is left with nothing to do. -/
structure Alike (first : Machine σ) (state : σ) (second : Machine τ) (other : τ) (oracle : Oracle) :
    Prop where
  forward : ∀ steps, ∃ more,
    (run first steps oracle state).1 <+: (run second more oracle other).1
  backward : ∀ steps, ∃ more,
    (run second steps oracle other).1 <+: (run first more oracle state).1
  endings : ∀ events ending, (∃ steps, run first steps oracle state = (events, some ending)) ↔
    ∃ steps, run second steps oracle other = (events, some ending)
  returns : ∀ events ending steps, run second steps oracle other = (events, some ending) →
    ending ≠ .nowhere

/-! ## Stretches of a run -/

variable {machine : Machine σ} {state middle last : σ} {oracle oracle' oracle'' : Oracle}
  {events more : List Event} {ending : Ending} {steps others : Nat}

def Goes (machine : Machine σ) (steps : Nat) (oracle : Oracle) (state : σ) (events : List Event)
    (oracle' : Oracle) (last : σ) : Prop :=
  ∀ further, run machine (steps + further) oracle state =
    (events ++ (run machine further oracle' last).1, (run machine further oracle' last).2)

def Ends (machine : Machine σ) (steps : Nat) (oracle : Oracle) (state : σ) (events : List Event)
    (ending : Ending) : Prop :=
  ∀ further, run machine (steps + further) oracle state = (events, some ending)

namespace Goes

theorem refl (machine : Machine σ) (oracle : Oracle) (state : σ) :
    Goes machine 0 oracle state [] oracle state := by
  intro further
  rw [Nat.zero_add]
  rfl

theorem one (step : machine oracle state = (events, .onward last oracle')) :
    Goes machine 1 oracle state events oracle' last := by
  intro further
  rw [Nat.add_comm, run, step]

theorem trans (first : Goes machine steps oracle state events oracle' middle)
    (second : Goes machine others oracle' middle more oracle'' last) :
    Goes machine (steps + others) oracle state (events ++ more) oracle'' last := by
  intro further
  rw [Nat.add_assoc, first, second, append_assoc]

theorem run_eq (goes : Goes machine steps oracle state events oracle' last) :
    run machine steps oracle state = (events, none) := by
  have reached := goes 0
  rwa [Nat.add_zero, run, append_nil] at reached

theorem eq_nil_of_zero (goes : Goes machine 0 oracle state events oracle' last) : events = [] :=
  (Prod.mk.inj goes.run_eq).1.symm

theorem ends (first : Goes machine steps oracle state events oracle' middle)
    (second : Ends machine others oracle' middle more ending) :
    Ends machine (steps + others) oracle state (events ++ more) ending := by
  intro further
  rw [Nat.add_assoc, first, second]

end Goes

theorem Ends.one (step : machine oracle state = (events, .ended ending)) :
    Ends machine 1 oracle state events ending := by
  intro further
  rw [Nat.add_comm, run, step]

/-! ## Longer runs -/

theorem longer_shows (machine : Machine σ) : ∀ (steps further : Nat) (oracle : Oracle) (state : σ),
    (run machine steps oracle state).1 <+: (run machine (steps + further) oracle state).1
  | 0, _, _, _ => nil_prefix
  | steps + 1, further, oracle, state => by
    rw [Nat.add_right_comm, run, run]
    rcases machine oracle state with ⟨events, next⟩
    cases next with
    | ended ending => exact prefix_refl _
    | onward state oracle =>
      exact (prefix_append_right_inj _).2 (longer_shows machine steps further oracle state)

theorem run_of_ended : ∀ (steps further : Nat) (oracle : Oracle) (state : σ) (events : List Event),
    run machine steps oracle state = (events, some ending) →
      run machine (steps + further) oracle state = (events, some ending)
  | 0, _, _, _, _, ended => by cases ended
  | steps + 1, further, oracle, state, events, ended => by
    rw [Nat.add_right_comm]
    rw [run] at ended ⊢
    rcases step : machine oracle state with ⟨first, next⟩
    rw [step] at ended
    cases next with
    | ended ending => exact ended
    | onward state oracle =>
      obtain ⟨rfl, same⟩ := Prod.mk.inj ended
      have later := run_of_ended steps further oracle state _ (Prod.ext rfl same)
      simp only [later]

/-! ## Related machines behave alike -/

/-- Two machines return the same value after the same events, or they come to related states after
the same events, each after at least one step. -/
def Meet (first : Machine σ) (second : Machine τ) (related : σ → τ → Prop) (oracle : Oracle)
    (state : σ) (other : τ) : Prop :=
  (∃ steps others events value, Ends first steps oracle state events (.returned value) ∧
    Ends second others oracle other events (.returned value)) ∨
  ∃ steps others events oracle' state' other',
    Goes first (steps + 1) oracle state events oracle' state' ∧
      Goes second (others + 1) oracle other events oracle' other' ∧ related state' other'

/-- From related states on, two machines keep coming to related states. -/
def Keeps (first : Machine σ) (second : Machine τ) (related : σ → τ → Prop) : Prop :=
  ∀ state other, related state other → ∀ oracle, Meet first second related oracle state other

variable {first : Machine σ} {second : Machine τ} {related : σ → τ → Prop} {other : τ}

/-- Both machines may have come some way before they meet. -/
theorem Meet.after {state' : σ} {other' : τ}
    (goes : Goes first steps oracle state events oracle' state')
    (goes' : Goes second others oracle other events oracle' other')
    (meet : Meet first second related oracle' state' other') :
    Meet first second related oracle state other := by
  rcases meet with ⟨further, further', more, value, ends, ends'⟩ |
    ⟨further, further', more, oracle'', last, last', later, later', holds⟩
  · exact .inl ⟨_, _, _, value, goes.ends ends, goes'.ends ends'⟩
  · exact .inr ⟨steps + further, others + further', _, oracle'', last, last', goes.trans later,
      goes'.trans later', holds⟩

theorem Keeps.symm (keeps : Keeps first second related) :
    Keeps second first fun other state => related state other := by
  intro other state holds oracle
  rcases keeps state other holds oracle with
    ⟨steps, others, events, value, ends, ends'⟩ |
    ⟨steps, others, events, oracle', state', other', goes, goes', holds'⟩
  · exact .inl ⟨others, steps, events, value, ends', ends⟩
  · exact .inr ⟨others, steps, events, oracle', other', state', goes', goes, holds'⟩

theorem Keeps.shows (keeps : Keeps first second related) (steps : Nat) :
    ∀ (state : σ) (other : τ) (oracle : Oracle), related state other →
      ∃ more, (run first steps oracle state).1 <+: (run second more oracle other).1 := by
  induction steps using Nat.strong_induction_on with
  | _ steps ih =>
    intro state other oracle holds
    rcases keeps state other holds oracle with
      ⟨taken, others, events, value, ends, ends'⟩ |
      ⟨taken, others, events, oracle', state', other', goes, goes', holds'⟩
    · refine ⟨others + 0, ?_⟩
      have shown := longer_shows first steps taken oracle state
      rw [Nat.add_comm, ends] at shown
      rwa [ends']
    · by_cases short : steps ≤ taken + 1
      · refine ⟨others + 1, ?_⟩
        have shown := longer_shows first steps (taken + 1 - steps) oracle state
        rw [Nat.add_sub_cancel' short, goes.run_eq] at shown
        rwa [goes'.run_eq]
      · obtain ⟨left, rfl⟩ := Nat.exists_eq_add_of_le (Nat.le_of_not_le short)
        obtain ⟨more, shown⟩ := ih left (by omega) state' other' oracle' holds'
        refine ⟨others + 1 + more, ?_⟩
        rw [goes, goes']
        exact (prefix_append_right_inj _).2 shown

theorem Keeps.ends (keeps : Keeps first second related) (steps : Nat) :
    ∀ (state : σ) (other : τ) (oracle : Oracle) (events : List Event), related state other →
      run first steps oracle state = (events, some ending) →
        ending ≠ .nowhere ∧ ∃ more, run second more oracle other = (events, some ending) := by
  induction steps using Nat.strong_induction_on with
  | _ steps ih =>
    intro state other oracle events holds ended
    rcases keeps state other holds oracle with
      ⟨taken, others, shown, value, ends, ends'⟩ |
      ⟨taken, others, shown, oracle', state', other', goes, goes', holds'⟩
    · have later := run_of_ended steps taken oracle state events ended
      rw [Nat.add_comm, ends] at later
      cases later
      exact ⟨nofun, others + 0, ends' 0⟩
    · by_cases short : steps ≤ taken + 1
      · have later := run_of_ended steps (taken + 1 - steps) oracle state events ended
        rw [Nat.add_sub_cancel' short, goes.run_eq] at later
        cases (Prod.mk.inj later).2
      · obtain ⟨left, rfl⟩ := Nat.exists_eq_add_of_le (Nat.le_of_not_le short)
        rw [goes] at ended
        obtain ⟨rfl, last⟩ := Prod.mk.inj ended
        obtain ⟨returns, more, ended'⟩ :=
          ih left (by omega) state' other' oracle' _ holds' (Prod.ext rfl last)
        refine ⟨returns, others + 1 + more, ?_⟩
        rw [goes', ended']

/-- **Machines that keep coming to related states behave alike.** -/
theorem Keeps.alike (keeps : Keeps first second related) (holds : related state other)
    (oracle : Oracle) : Alike first state second other oracle where
  forward steps := keeps.shows steps state other oracle holds
  backward steps := keeps.symm.shows steps other state oracle holds
  endings events ending := by
    constructor
    · rintro ⟨steps, ended⟩
      exact (keeps.ends steps state other oracle events holds ended).2
    · rintro ⟨steps, ended⟩
      exact (keeps.symm.ends steps other state oracle events holds ended).2
  returns events ending steps ended :=
    (keeps.symm.ends steps other state oracle events holds ended).1

end AgentFlow.Run
