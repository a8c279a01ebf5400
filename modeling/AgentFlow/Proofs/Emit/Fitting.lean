import AgentFlow.Compile
import AgentFlow.Proofs.Alongside

/-!
# What nodes emit fits their kind

A walk turns emissions into nested statements and relies on their shape: only ends return, a branch
has one condition for each of its cases, a loop has a condition and nothing else, and gates belong
to approvals and guardrails.  Every emitter keeps to it, whatever the draft it works on.
-/

namespace AgentFlow

open List

/-- Whether a statement runs and then goes on with the next one. -/
def Statement.isPlain : Statement → Bool
  | .raw _ => true
  | .attempt _ _ _ => true
  | _ => false

namespace Emit

open Workflow

def Plain (statements : List Statement) : Prop := ∀ statement ∈ statements, statement.isPlain

@[simp] theorem plain_nil : Plain [] := fun _ none => by cases none

@[simp] theorem plain_cons {statement : Statement} {rest : List Statement} :
    Plain (statement :: rest) ↔ statement.isPlain ∧ Plain rest := by
  simp [Plain]

theorem plain_raw (lines : List Text) : Plain [.raw lines] := by
  simp [Statement.isPlain]

/-- The shape of what a node with a given configuration emits. -/
def Emission.Fits (emission : Emission) : Config → Prop
  | .finish _ => ∃ before value, emission.statements = before ++ [.ret value] ∧ Plain before
  | .branch cases =>
    Plain emission.statements ∧ emission.conditions.length = cases.length
  | .loop _ => emission.statements = [] ∧ ∃ condition, emission.conditions = [condition]
  | .approval _ =>
    Plain emission.statements ∧ ∃ gate, emission.gate = some gate ∧ gate.continueWhen = true
  | .guardrail _ =>
    Plain emission.statements ∧ ∃ gate, emission.gate = some gate ∧ gate.continueWhen = false
  | _ => Plain emission.statements ∧ emission.gate = none

theorem Emission.Fits.plain {emission : Emission} {config : Config} (fits : emission.Fits config)
    (other : ∀ ending, config ≠ .finish ending) : Plain emission.statements := by
  cases config with
  | finish ending => exact absurd rfl (other ending)
  | loop condition =>
    rw [fits.1]
    exact plain_nil
  | _ => exact fits.1

variable {context : Context} {path : Path} {id : Text}

open Stoppable

theorem liftError_returns {α : Type} {result : Except Error α} {property : α → Prop}
    (holds : ∀ value, result = .ok value → property value) :
    Returns (liftError result) property := by
  intro draft last value done
  cases result with
  | error found => cases done
  | ok found =>
    cases done
    exact holds _ rfl

theorem guardedStage_plain (names : GuardrailNames) :
    Returns (guardedStage context names) (Statement.isPlain ·) :=
  .then_ fun _ => .then_ fun _ => .then_ fun _ => .pure rfl

theorem emitGuardrail_fits (config : GuardrailConfig) :
    Returns (emitGuardrail context path id config) (Emission.Fits · (.guardrail config)) := by
  unfold emitGuardrail
  refine .then_ fun names => .then_ fun source => .then_ fun entries => .then_ fun bundle => ?_
  have both : ∀ (input : Text) (stage : Statement), stage.isPlain →
      Plain [.raw [names.input ++ " = " ++ input], stage] := fun input stage plain =>
    plain_cons.2 ⟨rfl, plain_cons.2 ⟨plain, plain_nil⟩⟩
  dsimp only
  split
  · exact .bind _ (guardedStage_plain names) fun stage plain =>
      .pure ⟨both source stage plain, _, rfl, rfl⟩
  · exact .bind (Statement.isPlain ·) (.pure rfl) fun stage plain =>
      .pure ⟨both source stage plain, _, rfl, rfl⟩

theorem emission_fits (context : Context) (node : Node) (path : Path) :
    Returns (emission context node path) (Emission.Fits · node.config) := by
  unfold emission
  cases node.config with
  | start => exact .then_ fun _ => .then_ fun _ => .pure ⟨by simp [Statement.isPlain], rfl⟩
  | finish config =>
    dsimp only [emitFinish]
    split
    · exact .pure ⟨[], path.current, rfl, plain_nil⟩
    · exact .then_ fun _ => .then_ fun _ => .then_ fun result => .then_ fun source =>
        .pure ⟨[.raw (assignmentLines result source)], result, rfl, plain_raw _⟩
  | agent config =>
    exact .then_ fun _ => .then_ fun _ => .then_ fun _ => .then_ fun _ => .then_ fun _ =>
      .then_ fun _ => .then_ fun _ => .pure ⟨plain_raw _, rfl⟩
  | functionTool call =>
    exact .then_ fun _ => .then_ fun _ => .then_ fun _ => .then_ fun _ => .then_ fun _ =>
      .pure ⟨plain_raw _, rfl⟩
  | transform source =>
    dsimp only [emitTransform]
    split <;> exact .then_ fun _ => .then_ fun _ => .pure ⟨plain_raw _, rfl⟩
  | setState assignments =>
    refine .then_ fun lines => .pure ⟨?_, rfl⟩
    dsimp only
    split
    · exact plain_nil
    · exact plain_raw _
  | branch cases =>
    exact .bind _ (liftError_returns fun _ done => (forall₂_of_mapM done).length_eq.symm)
      fun _ length => .pure ⟨plain_nil, length⟩
  | loop condition => exact .then_ fun compiled => .pure ⟨rfl, compiled, rfl⟩
  | approval message => exact .then_ fun _ => .then_ fun _ => .pure ⟨plain_raw _, _, rfl, rfl⟩
  | fileSearch search => exact .then_ fun _ => .pure ⟨plain_raw _, rfl⟩
  | mcpTool config =>
    exact .then_ fun _ => .then_ fun _ => .then_ fun _ => .then_ fun _ => .pure ⟨plain_raw _, rfl⟩
  | guardrail config => exact emitGuardrail_fits config

/-- What holds of all that a node emits holds of what it emits on a walk. -/
theorem notingEmitter_returns {node : Node} {property : Emission → Prop}
    (emits : Returns (emission context node path) property) :
    Returns (notingEmitter context node path) property :=
  .then_ fun _ => .bind _ emits fun _ holds => .then_ fun _ => .pure holds

end Emit

end AgentFlow
