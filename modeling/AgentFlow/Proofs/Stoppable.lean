import AgentFlow.Error

/-!
# Work that an error may stop

Emitting and walking change a state and may stop with an error; the state is kept when they do.
These lemmas say what such work does to a state, one construct at a time, and take a run apart into
the runs of its steps.  Work without a state is taken apart in the same way.
-/

namespace AgentFlow

namespace Except

variable {ε α β : Type} {first : Except ε α} {next : α → Except ε β}

theorem bind_eq_ok {result : β} :
    (first >>= next) = .ok result ↔ ∃ value, first = .ok value ∧ next value = .ok result := by
  cases first <;> simp [bind, Except.bind]

theorem pure_eq_ok {value result : α} :
    (pure value : Except ε α) = .ok result ↔ value = result := by
  simp [pure, Except.pure]

theorem exists_bind_eq_ok :
    (∃ result, (first >>= next) = .ok result) ↔
      ∃ value, first = .ok value ∧ ∃ result, next value = .ok result := by
  simp only [bind_eq_ok]
  exact ⟨fun ⟨result, value, done, rest⟩ => ⟨value, done, result, rest⟩,
    fun ⟨value, done, result, rest⟩ => ⟨result, value, done, rest⟩⟩

theorem exists_pure_eq_ok (value : α) :
    (∃ result, (pure value : Except ε α) = .ok result) ↔ True :=
  iff_of_true ⟨value, rfl⟩ trivial

theorem exists_ok {result : Except ε α} (returned : result.isOk = true) :
    ∃ value, result = .ok value := by
  cases result with
  | error found => cases returned
  | ok value => exact ⟨value, rfl⟩

theorem seq_eq_ok {first next : Except ε Unit} :
    (first >>= fun _ => next) = .ok () ↔ first = .ok () ∧ next = .ok () := by
  cases first <;> simp [bind, Except.bind]

end Except

/-- Work on a state, which an error may stop. -/
abbrev Stoppable (σ α : Type) := ExceptT Error (StateM σ) α

namespace Stoppable

variable {σ α β : Type} {first : Stoppable σ α} {next work : α → Stoppable σ β} {state last : σ}
  {found : Error} {head : α} {tail : List α}

theorem exists_ok {result : Except Error α × σ} (returned : result.1.isOk = true) :
    ∃ value last, result = (.ok value, last) := by
  obtain ⟨value, ok⟩ := Except.exists_ok returned
  exact ⟨value, result.2, Prod.ext ok rfl⟩

/-! ## What each construct does to a state -/

theorem bind_run (first : Stoppable σ α) (next : α → Stoppable σ β) (state : σ) :
    (first >>= next) state = match first state with
      | (.ok value, later) => next value later
      | (.error found, later) => (.error found, later) := by
  show (ExceptT.bind first next) state = _
  simp only [ExceptT.bind, ExceptT.mk, bind, StateT.bind]
  rcases first state with ⟨_ | _, later⟩ <;> rfl

theorem get_bind_run (next : σ → Stoppable σ β) (state : σ) :
    ((get : Stoppable σ σ) >>= next) state = next state state := rfl

/-! ## Taking a run apart -/

theorem bind_eq_ok {result : β} :
    (first >>= next) state = (.ok result, last) ↔
      ∃ value middle, first state = (.ok value, middle) ∧
        next value middle = (.ok result, last) := by
  rw [bind_run]
  rcases h : first state with ⟨found | value, middle⟩
  · constructor
    · intro equal
      cases equal
    · rintro ⟨_, _, same, _⟩
      cases same
  · constructor
    · intro equal
      exact ⟨value, middle, rfl, equal⟩
    · rintro ⟨_, _, same, equal⟩
      cases same
      exact equal

theorem bind_eq_error :
    (first >>= next) state = (.error found, last) ↔
      first state = (.error found, last) ∨
        ∃ value middle, first state = (.ok value, middle) ∧
          next value middle = (.error found, last) := by
  rw [bind_run]
  rcases h : first state with ⟨error | value, middle⟩
  · constructor
    · intro equal
      cases equal
      exact .inl rfl
    · rintro (same | ⟨_, _, same, _⟩)
      · cases same
        rfl
      · cases same
  · constructor
    · intro equal
      exact .inr ⟨value, middle, rfl, equal⟩
    · rintro (same | ⟨_, _, same, equal⟩)
      · cases same
      · cases same
        exact equal

theorem mapM_cons_eq_ok {results : List β} :
    (head :: tail).mapM work state = (.ok results, last) ↔
      ∃ result middle rest, work head state = (.ok result, middle) ∧
        tail.mapM work middle = (.ok rest, last) ∧ results = result :: rest := by
  rw [List.mapM_cons, bind_eq_ok]
  constructor
  · rintro ⟨result, middle, done, more⟩
    obtain ⟨rest, final, others, equal⟩ := bind_eq_ok.1 more
    cases equal
    exact ⟨result, middle, rest, done, others, rfl⟩
  · rintro ⟨result, middle, rest, done, others, rfl⟩
    exact ⟨result, middle, done, bind_eq_ok.2 ⟨rest, last, others, rfl⟩⟩

theorem mapM_cons_eq_error :
    (head :: tail).mapM work state = (.error found, last) ↔
      work head state = (.error found, last) ∨
        ∃ result middle, work head state = (.ok result, middle) ∧
          tail.mapM work middle = (.error found, last) := by
  rw [List.mapM_cons, bind_eq_error]
  refine or_congr Iff.rfl (exists_congr fun result => exists_congr fun middle =>
    and_congr Iff.rfl ?_)
  rw [bind_eq_error]
  constructor
  · rintro (stopped | ⟨_, _, _, equal⟩)
    · exact stopped
    · cases equal
  · exact .inl

/-! ## What a run can return -/

/-- Whatever the state, the work returns only values with a property. -/
def Returns (work : Stoppable σ α) (property : α → Prop) : Prop :=
  ∀ ⦃state last : σ⦄ ⦃value : α⦄, work state = (.ok value, last) → property value

namespace Returns

variable {work : Stoppable σ α} {next : α → Stoppable σ β} {after : β → Prop}

theorem pure {property : α → Prop} {value : α} (holds : property value) :
    Returns (Pure.pure value : Stoppable σ α) property := by
  intro state last result equal
  cases equal
  exact holds

theorem bind (property : α → Prop) (first : Returns work property)
    (second : ∀ value, property value → Returns (next value) after) :
    Returns (work >>= next) after := by
  intro state last result equal
  obtain ⟨value, middle, done, more⟩ := bind_eq_ok.1 equal
  exact second value (first done) more

theorem then_ (second : ∀ value, Returns (next value) after) : Returns (work >>= next) after :=
  bind (fun _ => True) (fun _ _ _ _ => trivial) fun value _ => second value

end Returns

end Stoppable

end AgentFlow
