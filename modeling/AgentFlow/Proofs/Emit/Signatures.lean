import AgentFlow.Proofs.Module.Unbroken

/-!
# One signature for each tool

Only the first definition of a name is kept, and later ones are compared with it; that is enough for
any two of them to agree.  What is compared are texts of parameters sorted by their keys; an integer
with too many digits has no text, and stops the collection.  All definitions of a tool give the same
declaration, where the required parameters stand first.
-/

namespace AgentFlow

open List

/-! ## Sorted parameters -/

theorem Text.le_antisymm : ∀ {a b : Text}, le a b = true → le b a = true → a = b
  | [], [], _, _ => rfl
  | [], _ :: _, _, second => by cases second
  | _ :: _, [], first, _ => by cases first
  | a :: as, b :: bs, first, second => by
    rw [le_cons_iff] at first second
    rcases first with less | ⟨same, first⟩
    · omega
    · rcases second with less | ⟨_, second⟩
      · omega
      · rw [CodePoint.toNat_inj same, le_antisymm first second]

namespace Emit

open Workflow Schema

variable {tool other : FunctionTool}

/-- Definitions agree: they have the same description and the same parameters, up to the order of
the keys. -/
structure Agree (tool other : FunctionTool) : Prop where
  description : tool.description = other.description
  parameters : tool.parameters.Perm other.parameters

def HasKeys (tool : FunctionTool) : Prop := (tool.parameters.map Prod.fst).Nodup

/-- Sorting tells whether parameters are the same up to their order. -/
theorem agree_iff_sorted (keys : HasKeys tool) :
    Agree tool other ↔
      tool.description = other.description ∧ sortedParameters tool = sortedParameters other := by
  have sorted (tool : FunctionTool) :
      (sortedParameters tool).Pairwise fun a b => Text.le a.1 b.1 = true :=
    pairwise_mergeSort (fun a b c => Text.le_trans a.1 b.1 c.1) (fun a b => Text.le_total a.1 b.1) _
  have perm (tool : FunctionTool) : (sortedParameters tool).Perm tool.parameters :=
    mergeSort_perm _ _
  constructor
  · rintro ⟨description, same⟩
    refine ⟨description, Perm.eq_of_pairwise ?_ (sorted tool) (sorted other)
      ((perm tool).trans (same.trans (perm other).symm))⟩
    intro a b listed listed' first second
    exact inj_on_of_nodup_map keys ((perm tool).mem_iff.1 listed)
      (same.mem_iff.2 ((perm other).mem_iff.1 listed')) (Text.le_antisymm first second)
  · rintro ⟨description, same⟩
    exact ⟨description, (perm tool).symm.trans (same ▸ perm other)⟩

/-- What comparing two definitions tells: whether they agree, or that one of them has no text. -/
theorem sameSignature_cases (keys : HasKeys tool) : match sameSignature tool other with
    | .ok true => Agree tool other
    | .ok false => ¬Agree tool other
    | .error found =>
      ¬(Writable tool ∧ Writable other) ∧ found = .breakdown (.numeral .unwritable) := by
  have unwritten {tool : FunctionTool} (unwritable : ¬Writable tool) :
      definitionKey tool = .error (.breakdown (.numeral .unwritable)) := if_neg unwritable
  by_cases writable : Writable tool
  · by_cases writable' : Writable other
    · have compared : sameSignature tool other = .ok (decide
          ((tool.description, parametersText tool) =
            (other.description, parametersText other))) := by
        rw [sameSignature, definitionKey_eq_ok_iff.2 ⟨writable, rfl⟩,
          definitionKey_eq_ok_iff.2 ⟨writable', rfl⟩]
        rfl
      rw [compared, agree_iff_sorted keys]
      by_cases same :
          (tool.description, parametersText tool) = (other.description, parametersText other)
      · rw [decide_eq_true same]
        obtain ⟨description, text⟩ := Prod.mk.inj same
        exact ⟨description, sortedParameters_eq_of_text writable writable' text⟩
      · rw [decide_eq_false same]
        rintro ⟨description, sorted⟩
        refine same (Prod.ext description ?_)
        show parametersText tool = parametersText other
        rw [parametersText, sorted, parametersText]
    · rw [sameSignature, definitionKey_eq_ok_iff.2 ⟨writable, rfl⟩, unwritten writable']
      exact ⟨fun both => writable' both.2, rfl⟩
  · rw [sameSignature, unwritten writable]
    exact ⟨fun both => writable both.1, rfl⟩

/-! ## Definitions that stop a collection -/

/-- Where the schema of a definition's parameters stands. -/
def schemaPlace (definition : Node × FunctionTool) : Text :=
  definition.1.id ++ "." ++ definition.2.name ++ ".parameters"

variable {tools : List FunctionTool} {defined more : List (Node × FunctionTool)} {node : Node}
  {found : Error}

theorem addTool_eq_error (stopped : addTool node tools tool = .error found) :
    checkSchema (parameterSchema tool) (schemaPlace (node, tool)) = .error found ∨
      ∃ known ∈ tools, known.name = tool.name ∧ (sameSignature known tool = .error found ∨
        sameSignature known tool = .ok false ∧
          found = .problemOf node.id (.toolSignatures tool.name)) := by
  unfold addTool at stopped
  split at stopped
  · left
    rcases checked : checkSchema (parameterSchema tool) (schemaPlace (node, tool)) with _ | _
    all_goals rw [schemaPlace] at checked; rw [checked] at stopped; cases stopped
    rfl
  · next known among =>
    refine .inr ⟨known, mem_of_find?_eq_some among, by simpa using find?_some among, ?_⟩
    cases compared : sameSignature known tool with
    | error fault =>
      rw [compared] at stopped
      cases stopped
      exact .inl rfl
    | ok same =>
      rw [compared] at stopped
      cases same with
      | true => cases stopped
      | false =>
        cases stopped
        exact .inr ⟨rfl, rfl⟩

/-- How a collection stops: for a schema, for definitions that do not agree, or for definitions that
cannot be compared. -/
theorem Collected.stopped (collected : Collected tools defined)
    (dictionaries : ∀ definition ∈ defined ++ more, HasKeys definition.2)
    (stopped : more.foldlM (fun tools definition => addTool definition.1 tools definition.2) tools =
      .error found) :
    (∃ definition ∈ more, checkSchema (parameterSchema definition.2) (schemaPlace definition) =
      .error found) ∨
    (∃ first ∈ defined ++ more, ∃ second ∈ defined ++ more, first.2.name = second.2.name ∧
      ¬Agree first.2 second.2 ∧
      found = .problemOf second.1.id (.toolSignatures second.2.name)) ∨
    ¬(defined ++ more).Pairwise Comparable ∧ found = .breakdown (.numeral .unwritable) := by
  induction more generalizing tools defined with
  | nil => cases stopped
  | cons definition rest ih =>
    rw [foldlM_cons] at stopped
    cases added : addTool definition.1 tools definition.2 with
    | error fault =>
      rw [added] at stopped
      cases stopped
      rcases addTool_eq_error added with schema | ⟨known, kept, name, differ⟩
      · exact .inl ⟨definition, mem_cons_self, schema⟩
      obtain ⟨node, listed, _⟩ := collected.origin known kept
      have compared := @sameSignature_cases known definition.2
        (dictionaries _ (mem_append_left _ listed))
      rcases differ with unwritten | ⟨differ, cause⟩
      · rw [unwritten] at compared
        refine .inr (.inr ⟨fun comparable => compared.1 ?_, compared.2⟩)
        exact (pairwise_append.1 comparable).2.2 _ listed definition mem_cons_self name
      · rw [differ] at compared
        exact .inr (.inl ⟨(node, known), mem_append_left _ listed, definition, by simp,
          name, compared, cause⟩)
    | ok later =>
      rw [added] at stopped
      rw [append_cons] at dictionaries ⊢
      rcases ih (collected.add added) dictionaries stopped with ⟨other, listed, schema⟩ | others
      · exact .inl ⟨other, mem_cons_of_mem _ listed, schema⟩
      · exact .inr others

/-! ## Declarations -/

variable {graph : Graph}

end Emit

end AgentFlow
