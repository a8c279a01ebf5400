import AgentFlow.Proofs.Emit.Agreeing
import AgentFlow.Proofs.Emit.Collecting
import AgentFlow.Proofs.Json.Shown

/-!
# Definitions of one tool

Two definitions of a tool agree when they have the same description and, up to the order of their
keys, the same parameters, which is what comparing their texts tells.  What is generated for a tool
depends on its parameters only by what stands under each key.
-/

namespace AgentFlow

open List

/-! ## Sorting by keys -/

namespace Text

theorem le_cons_iff {a b : CodePoint} {as bs : Text} :
    le (a :: as) (b :: bs) = true ↔ a.toNat < b.toNat ∨ (a.toNat = b.toNat ∧ le as bs = true) := by
  unfold le
  rw [compare]
  rcases Nat.lt_trichotomy a.toNat b.toNat with less | same | more
  · simp [Nat.compare_eq_lt.2 less, Ordering.then, less]
  · simp [same, Ordering.then]
  · simp [Nat.compare_eq_gt.2 more, Ordering.then]
    omega

theorem le_total : ∀ a b : Text, (le a b || le b a) = true
  | [], [] => rfl
  | [], _ :: _ => rfl
  | _ :: _, [] => rfl
  | a :: as, b :: bs => by
    have rest := le_total as bs
    simp only [Bool.or_eq_true, le_cons_iff] at rest ⊢
    rcases Nat.lt_trichotomy a.toNat b.toNat with less | same | more
    · exact .inl (.inl less)
    · exact rest.imp (fun below => .inr ⟨same, below⟩) fun above => .inr ⟨same.symm, above⟩
    · exact .inr (.inl more)

theorem le_trans : ∀ a b c : Text, le a b = true → le b c = true → le a c = true
  | [], _, [], _, _ => rfl
  | [], _, _ :: _, _, _ => rfl
  | _ :: _, [], _, first, _ => by cases first
  | _ :: _, _ :: _, [], _, second => by cases second
  | a :: as, b :: bs, c :: cs, first, second => by
    rw [le_cons_iff] at first second ⊢
    rcases first with less | ⟨same, below⟩
    · exact .inl (second.elim (Nat.lt_trans less) fun both => both.1 ▸ less)
    · rcases second with less' | ⟨same', below'⟩
      · exact .inl (same ▸ less')
      · exact .inr ⟨same.trans same', le_trans as bs cs below below'⟩

end Text

theorem filter_mergeSort (entries : Entries) (key : Text) :
    (entries.mergeSort fun a b => Text.le a.1 b.1).filter (·.1 = key) =
      entries.filter (·.1 = key) := by
  have sorted : (entries.filter (·.1 = key)).Pairwise fun a b => Text.le a.1 b.1 = true := by
    refine pairwise_of_forall_mem_list fun a listed b listed' => ?_
    have same : a.1 = b.1 := by
      simp only [mem_filter, decide_eq_true_eq] at listed listed'
      rw [listed.2, listed'.2]
    simpa [same] using Text.le_total b.1 b.1
  have within : (entries.filter (·.1 = key)).Sublist
      (entries.mergeSort fun a b => Text.le a.1 b.1) :=
    sublist_mergeSort (fun a b c => Text.le_trans a.1 b.1 c.1)
      (fun a b => Text.le_total a.1 b.1) sorted filter_sublist
  have inside := within.filter (·.1 = key)
  rw [filter_filter] at inside
  simp only [Bool.and_self] at inside
  refine (inside.eq_of_length ?_).symm
  exact ((mergeSort_perm _ _).filter _).length_eq.symm

theorem lookup_eq_of_filter (entries : Entries) (key : Text) :
    entries.lookup key = ((entries.filter (·.1 = key)).head?).map Prod.snd := by
  induction entries with
  | nil => rfl
  | cons entry rest ih =>
    obtain ⟨name, value⟩ := entry
    by_cases same : key = name
    · subst same
      simp
    · have other : (key == name) = false := by simpa using same
      rw [lookup_cons, other, ih, filter_cons_of_neg (by simpa using Ne.symm same)]

variable {entries other : Entries}

theorem lookup_eq_of_sorted (same : (entries.mergeSort fun a b => Text.le a.1 b.1) =
      other.mergeSort fun a b => Text.le a.1 b.1) (key : Text) :
    entries.lookup key = other.lookup key := by
  rw [lookup_eq_of_filter, lookup_eq_of_filter, ← filter_mergeSort, same, filter_mergeSort]

/-! ## Schemas -/

theorem Schema.checkKeywords_congr (same : ∀ key, entries.lookup key = other.lookup key)
    (dialect keywords : Dialect) :
    checkKeywords dialect entries keywords = checkKeywords dialect other keywords := by
  induction keywords with
  | nil => rw [checkKeywords, checkKeywords]
  | cons keyword rest ih =>
    obtain ⟨key, rule⟩ := keyword
    rw [checkKeywords, checkKeywords, ih]
    have equal := same key
    -- The four pairs of look-ups; the two that differ cannot be.
    split <;> rename_i found <;> split <;> rename_i found' <;>
      cases found.symm.trans (equal.trans found') <;> rfl

theorem checkSchema_congr (same : ∀ key, entries.lookup key = other.lookup key) (place : Text) :
    checkSchema (.obj entries) place = checkSchema (.obj other) place := by
  unfold checkSchema Schema.dialectOf Entries.get?
  simp only [same, Schema.check, Schema.checkKeywords_congr same]

namespace Emit

open Workflow

/-! ## Texts of parameters -/

theorem pairText_append_inj {entry other : Text × Json} (writable : entry.2.isWritable = true)
    (writable' : other.2.isWritable = true) {rest left : Text}
    (same : pairText entry ++ rest = pairText other ++ left) : entry = other ∧ rest = left := by
  have ends (rest : Text) : Text.Ends (Text.ofString ")" ++ rest) := ⟨')', by decide, rest, rfl⟩
  unfold pairText at same
  simp only [append_assoc] at same
  obtain ⟨keys, same⟩ := Text.shown_append_inj (append_cancel_left same)
  obtain ⟨values, rests⟩ := Json.shown_append_inj writable writable' (ends _) (ends _)
    (append_cancel_left same)
  exact ⟨Prod.ext keys values, append_cancel_left rests⟩

/-- **The text of parameters determines them,** up to their order. -/
theorem sortedParameters_eq_of_text {tool other : FunctionTool} (writable : Writable tool)
    (writable' : Writable other) (same : parametersText tool = parametersText other) :
    sortedParameters tool = sortedParameters other := by
  have each {tool : FunctionTool} (writable : Writable tool) :
      ∀ entry ∈ sortedParameters tool, entry.2.isWritable = true := by
    intro entry listed
    rw [Json.isWritable_iff]
    exact (Json.everywhere_obj.1 (Json.isWritable_iff.1 writable)).2 entry
      ((mergeSort_perm _ _).mem_iff.1 listed)
  unfold parametersText at same
  simp only [append_assoc] at same
  have opens (entry : Text × Json) (rest left : Text) :
      pairText entry ++ rest ≠ (']' : CodePoint) :: left := fun same => by
    cases (List.cons.inj same).1
  have ended : Text.join ", " ((sortedParameters tool).map pairText) ++ [(']' : CodePoint)] =
      Text.join ", " ((sortedParameters other).map pairText) ++ [(']' : CodePoint)] :=
    append_cancel_left same
  exact (Text.join_append_inj (by decide) (by decide) (fun entry listed other listed' _ _ _ _ =>
    pairText_append_inj (each writable entry listed) (each writable' other listed'))
    (fun entry _ => opens entry) ended).1

namespace SameTool

variable {tool other third : FunctionTool}

theorem refl (tool : FunctionTool) : SameTool tool tool := ⟨rfl, rfl, rfl⟩

theorem symm (same : SameTool tool other) : SameTool other tool :=
  ⟨same.name.symm, same.description.symm, same.sorted.symm⟩

theorem trans (first : SameTool tool other) (second : SameTool other third) : SameTool tool third :=
  ⟨first.name.trans second.name, first.description.trans second.description,
    first.sorted.trans second.sorted⟩

variable (same : SameTool tool other)
include same

theorem lookup (key : Text) : tool.parameters.lookup key = other.parameters.lookup key :=
  lookup_eq_of_sorted same.sorted key

theorem isEmpty : tool.parameters.isEmpty = other.parameters.isEmpty := by
  have lengths := congrArg List.length same.sorted
  unfold sortedParameters at lengths
  rw [length_mergeSort, length_mergeSort] at lengths
  rw [Bool.eq_iff_iff, isEmpty_iff_length_eq_zero, isEmpty_iff_length_eq_zero, lengths]

theorem checkSchema_eq (place : Text) :
    checkSchema (parameterSchema tool) place = checkSchema (parameterSchema other) place := by
  unfold parameterSchema
  rw [same.isEmpty]
  split
  · rfl
  · exact checkSchema_congr same.lookup place

theorem parameters_eq : parameters tool = parameters other := by
  unfold parameters Schema.requiredNames Entries.getOr Entries.get?
  simp only [same.lookup, same.name]

theorem toolDeclaration_eq (unit : Text) :
    toolDeclaration tool unit = toolDeclaration other unit := by
  unfold toolDeclaration
  rw [same.parameters_eq, same.description, same.name]

theorem toolImports_eq : toolImports tool = toolImports other := by
  unfold toolImports
  rw [same.parameters_eq]

end SameTool

/-! ## Collecting in another order -/

/-- Definitions that can be collected: their schemas are accepted, and those of one name can be
compared and agree. -/
structure Compatible (tools : List FunctionTool) : Prop where
  accepted : ∀ tool ∈ tools, checkSchema (parameterSchema tool) [] = .ok ()
  agree : ∀ tool ∈ tools, ∀ other ∈ tools, tool.name = other.name → SameTool tool other
  comparable : tools.Pairwise fun tool other => tool.name = other.name → Writable tool ∧
    Writable other

theorem Compatible.perm {tools others : List FunctionTool} (compatible : Compatible tools)
    (same : tools.Perm others) : Compatible others where
  accepted tool listed := compatible.accepted tool (same.mem_iff.2 listed)
  agree tool listed other listed' :=
    compatible.agree tool (same.mem_iff.2 listed) other (same.mem_iff.2 listed')
  comparable := (same.pairwise_iff fun both names => (both names.symm).symm).1 compatible.comparable

variable {tools others : List FunctionTool} {defined more defined' : List (Node × FunctionTool)}

theorem Collected.same (collected : Collected tools defined) {tool : FunctionTool}
    (listed : tool ∈ defined.map Prod.snd) :
    ∃ known, tools.find? (·.name = tool.name) = some known ∧ SameTool known tool := by
  obtain ⟨definition, there, rfl⟩ := mem_map.1 listed
  obtain ⟨known, found, rfl | agrees⟩ := collected.found definition there
  · exact ⟨_, found, .refl _⟩
  · obtain ⟨writable, writable', description, text⟩ := sameSignature_eq_ok_true_iff.1 agrees
    exact ⟨known, found, by simpa using find?_some found, description,
      sortedParameters_eq_of_text writable writable' text⟩

theorem Collected.compatible (collected : Collected tools defined) :
    Compatible (defined.map Prod.snd) where
  accepted tool listed := by
    obtain ⟨known, found, same⟩ := collected.same listed
    obtain ⟨node, _, accepted⟩ := collected.origin known (mem_of_find?_eq_some found)
    rw [← same.checkSchema_eq]
    exact (checkSchema_agree _ _ _).eq_ok accepted
  agree tool listed other listed' names := by
    obtain ⟨known, found, same⟩ := collected.same listed
    obtain ⟨known', found', same'⟩ := collected.same listed'
    rw [names, found'] at found
    cases found
    exact same.symm.trans same'
  comparable := pairwise_map.2 collected.comparable

/-- Compatible definitions can be collected in any order. -/
theorem Compatible.addAll (compatible : Compatible ((defined ++ more).map Prod.snd))
    (collected : Collected tools defined) :
    ∃ later, more.foldlM (fun tools definition => addTool definition.1 tools definition.2) tools =
      .ok later := by
  induction more generalizing tools defined with
  | nil => exact ⟨tools, rfl⟩
  | cons definition rest ih =>
    have here : definition.2 ∈ (defined ++ definition :: rest).map Prod.snd :=
      mem_map_of_mem (by simp)
    obtain ⟨later, added⟩ : ∃ later, addTool definition.1 tools definition.2 = .ok later := by
      cases found : tools.find? (·.name = definition.2.name) with
      | none =>
        refine ⟨_, addTool_eq_ok.2 (.inr ⟨found, ?_, rfl⟩)⟩
        exact (checkSchema_agree _ _ _).eq_ok (compatible.accepted _ here)
      | some known =>
        obtain ⟨node, listed, _⟩ := collected.origin known (mem_of_find?_eq_some found)
        have names : known.name = definition.2.name := by simpa using find?_some found
        have same := compatible.agree known (mem_map_of_mem (mem_append_left _ listed)) _ here names
        obtain ⟨_, _, compared⟩ := pairwise_append.1 (pairwise_map.1 compatible.comparable)
        obtain ⟨writable, writable'⟩ := compared _ listed definition mem_cons_self names
        refine ⟨_, addTool_eq_ok.2 (.inl ⟨known, found, ?_, rfl⟩)⟩
        refine sameSignature_eq_ok_true_iff.2 ⟨writable, writable', same.description, ?_⟩
        unfold parametersText
        rw [same.sorted]
    obtain ⟨last, done⟩ := ih (by rwa [append_assoc]) (collected.add added)
    exact ⟨last, by rw [foldlM_cons, added]; exact done⟩

/-- Tools found by name in either list are the same functions. -/
def SameTools (tools others : List FunctionTool) : Prop :=
  ∀ name, Option.Rel SameTool (tools.find? (·.name = name)) (others.find? (·.name = name))

theorem Collected.find?_same (collected : Collected tools defined)
    (collected' : Collected others defined') (within : defined.map Prod.snd ⊆ defined'.map Prod.snd)
    {name : Text} {known : FunctionTool} (found : tools.find? (·.name = name) = some known) :
    ∃ known', others.find? (·.name = name) = some known' ∧ SameTool known known' := by
  obtain ⟨node, listed, _⟩ := collected.origin known (mem_of_find?_eq_some found)
  obtain ⟨known', found', same⟩ := collected'.same (within (mem_map_of_mem listed))
  have under : known.name = name := by simpa using find?_some found
  rw [under] at found'
  exact ⟨known', found', same.symm⟩

theorem Collected.sameTools (collected : Collected tools defined)
    (collected' : Collected others defined')
    (same : ∀ tool, tool ∈ defined.map Prod.snd ↔ tool ∈ defined'.map Prod.snd) :
    SameTools tools others := by
  intro name
  cases found : tools.find? (·.name = name) with
  | some known =>
    obtain ⟨known', found', same⟩ :=
      collected.find?_same collected' (fun tool => (same tool).1) found
    rw [found']
    exact .some same
  | none =>
    cases found' : others.find? (·.name = name) with
    | none => exact .none
    | some known' =>
      obtain ⟨known, found'', _⟩ :=
        collected'.find?_same collected (fun tool => (same tool).2) found'
      rw [found] at found''
      cases found''

end Emit

end AgentFlow
