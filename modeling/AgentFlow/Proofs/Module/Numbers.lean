import AgentFlow.Proofs.Module.Unbroken

/-!
# Numbers that are not finite

Such a number has no literal.  Reading finds each of them in a document and refuses the document.
So laying out a literal never stops the compilation of a workflow, whatever else does.
-/

namespace AgentFlow

open List Emit
open Decode (Step)

/-! ## Places in a document -/

/-- What stands at a place in a value, with the path that leads there.  A place tells at each depth
how many branches stand before. -/
def Json.at? : Json → List Nat → Option (List Step × Json)
  | value, [] => some ([], value)
  | value, index :: place => value.branches[index]?.bind fun branch =>
    (branch.2.at? place).map fun found => (branch.1 :: found.1, found.2)

namespace Workflow

/-- The numbers in a value that are not finite: one for each place where one stands, in the order of
the places, which is that of the document. -/
def Finds (value : Json) (found : List (List Step × Binary64)) : Prop :=
  ∃ places : List (List Nat), places.Pairwise (· < ·) ∧
    (∀ place, place ∈ places ↔
      ∃ path x, value.at? place = some (path, .float x) ∧ x.isFinite = false) ∧
    places.map value.at? = found.map fun number => some (number.1, .float number.2)

variable {value : Json}

theorem finds_of_branches (other : ∀ x, value ≠ .float x)
    (each : ∀ branch ∈ value.branches, Finds branch.2 (nonFinite branch.2)) :
    Finds value (value.branches.flatMap inBranch) := by
  choose! places ordered members same using each
  refine ⟨value.branches.zipIdx.flatMap fun branch => (places branch.1).map (branch.2 :: ·),
    pairwise_flatMap.2 ⟨?_, ?_⟩, fun place => ?_, ?_⟩
  · intro branch listed
    have known := mem_of_getElem? (mem_zipIdx_iff_getElem?.1 listed)
    exact pairwise_map.2 ((ordered _ known).imp fun less => cons_lt_cons_iff.2 (.inr ⟨rfl, less⟩))
  · have increasing : value.branches.zipIdx.Pairwise fun one two => one.2 < two.2 :=
      pairwise_map.1 (zipIdx_map_snd 0 value.branches ▸ pairwise_lt_range')
    refine increasing.imp fun less _ first _ second => ?_
    obtain ⟨_, -, rfl⟩ := mem_map.1 first
    obtain ⟨_, -, rfl⟩ := mem_map.1 second
    exact cons_lt_cons_iff.2 (.inl less)
  · simp only [mem_flatMap, mem_map, Prod.exists, mem_zipIdx_iff_getElem?]
    constructor
    · rintro ⟨step, item, index, there, rest, listed, rfl⟩
      obtain ⟨path, x, here, wild⟩ := (members _ (mem_of_getElem? there) rest).1 listed
      exact ⟨step :: path, x, by simp [Json.at?, there, here], wild⟩
    · rintro ⟨path, x, there, wild⟩
      cases place with
      | nil => exact absurd (Prod.mk.inj (Option.some.inj there)).2 (other x)
      | cons index rest =>
        obtain ⟨⟨step, item⟩, branch, inside⟩ := Option.bind_eq_some_iff.1 there
        obtain ⟨⟨inner, last⟩, here, equal⟩ := Option.map_eq_some_iff.1 inside
        cases equal
        exact ⟨step, item, index, branch, rest,
          (members _ (mem_of_getElem? branch) rest).2 ⟨inner, x, here, wild⟩, rfl⟩
  · rw [map_flatMap, map_flatMap]
    conv_rhs => rw [← zipIdx_map_fst 0 value.branches, flatMap_map]
    refine flatMap_congr fun branch listed => ?_
    have there := mem_zipIdx_iff_getElem?.1 listed
    have inside := congrArg (map (Option.map fun found => (branch.1.1 :: found.1, found.2)))
      (same _ (mem_of_getElem? there))
    simpa [inBranch, Json.at?, there, Function.comp_def] using inside

theorem nonFinite_finds (value : Json) : Finds value (nonFinite value) := by
  induction value using Json.branch_induction with
  | step value each =>
    by_cases number : ∃ x, value = .float x
    · obtain ⟨x, rfl⟩ := number
      have here (place path y) : (Json.float x).at? place = some (path, .float y) ↔
          place = [] ∧ path = [] ∧ x = y := by
        cases place <;> simp [Json.at?, Json.branches, eq_comm]
      by_cases finite : x.isFinite = true
      · exact ⟨[], .nil, by simp [here, finite], by simp [nonFinite, finite]⟩
      · exact ⟨[[]], pairwise_singleton _ _, by simp [here, finite],
          by simp [nonFinite, finite, Json.at?]⟩
    · rw [nonFinite_eq value (not_exists.1 number)]
      exact finds_of_branches (not_exists.1 number) each

theorem Finds.isFinite (finds : Finds value []) {place : List Nat} {path : List Step}
    {x : Binary64} (there : value.at? place = some (path, .float x)) : x.isFinite = true := by
  obtain ⟨places, -, members, same⟩ := finds
  rw [map_nil, map_eq_nil_iff] at same
  by_contra wild
  have listed := (members place).2 ⟨path, x, there, by simpa using wild⟩
  rw [same] at listed
  cases listed

end Workflow

/-! ## Literals of workflows -/

/-- Every error is put up with but a literal that cannot be laid out. -/
def Limits.laidOut : Limits where
  allows found := ∀ fault, found ≠ .breakdown (.literal fault)
  reported := by
    rintro _ reported fault rfl
    cases reported

open Limits (laidOut)
open Workflow

theorem liftShape_laidOut {α : Type} (result : Except ShapeFault α) :
    Within laidOut (liftShape result) := by
  cases result with
  | ok value => exact .ok value
  | error fault => exact .stop (by rintro _ ⟨⟩)

theorem judges_laidOut (schema : Json) : Judges laidOut schema := by
  intro place
  unfold checkSchema
  split
  · refine (liftShape_laidOut _).bind fun dialect _ => ?_
    split
    · exact .stop (by rintro _ ⟨⟩)
    · exact .error rfl
    · exact .ok ()
  · exact .error rfl

theorem reads_laidOut (record : Entries) : Schema.Reads laidOut record :=
  ⟨liftShape_laidOut _, liftShape_laidOut _⟩

theorem compares_laidOut (first second : Node × FunctionTool) : Compares laidOut first second := by
  have key (tool : FunctionTool) : Within laidOut (definitionKey tool) := by
    unfold definitionKey
    split
    · exact .ok _
    · exact .stop (by rintro _ ⟨⟩)
  exact fun _ => (key _).bind fun _ _ => (key _).bind fun _ _ => .ok _

theorem suits_laidOut (config : Config) : Suits laidOut config where
  expressions source _ scope := by
    unfold compiled
    split
    · exact .ok _
    · next failure _ => cases failure <;> exact .stop (by rintro _ ⟨⟩)
  schemas schema _ := judges_laidOut schema
  reads := by
    cases config with
    | finish config => exact fun _ _ _ => liftShape_laidOut _
    | agent config => exact fun _ _ _ _ record _ => reads_laidOut record
    | _ => trivial
  bases base _ draft := by
    rw [allocate_run]
    split
    · exact .ok _
    · exact .stop (by rintro _ ⟨⟩)
  lists value _ := liftShape_laidOut _

theorem json_laidOut (payload : Payload) : Within laidOut payload.json := by
  have read (text : Text) (result : Except Json.ReadFailure Json) :
      Within laidOut (jsonOf text result) := by
    unfold jsonOf
    split
    · exact .ok _
    · exact .error rfl
    · exact .stop (by rintro _ ⟨⟩)
  unfold Payload.json
  split
  · exact .ok _
  · exact .error rfl
  · exact read _ _
  · split
    · exact read _ _
    · exact .stop (by rintro _ ⟨⟩)

/-- **No number that is not finite gets past reading.**  Reading finds all of them in a document.
If it accepts the document, every number there can be written, and the document as a whole can be
laid out.  No literal ever stops a compilation. -/
theorem nonFinite_numbers_stop_at_reading (payload : Payload) :
    (∀ value, Finds value (nonFinite value)) ∧
      (∀ workflow, payload.workflow = .ok workflow → ∃ value, payload.json = .ok value ∧
        (∀ place path x, value.at? place = some (path, .float x) →
          (Literal.scalar (.float x)).writeAtom = .ok x.toText) ∧
        ∀ unit, (Literal.ofJson value).HasLayout unit) ∧
      ∀ settings fault, compile payload settings ≠ .error (.breakdown (.literal fault)) := by
  refine ⟨nonFinite_finds, fun workflow read => ?_, fun settings fault stopped => ?_⟩
  · obtain ⟨value, given, decoded⟩ := Except.bind_eq_ok.1 read
    have finite := (decoded_of_ofJson decoded).1
    have finds := nonFinite_eq_nil_iff.2 finite ▸ nonFinite_finds value
    exact ⟨value, given, fun place path x there => if_pos (finds.isFinite there),
      fun unit => Literal.hasLayout_ofJson value finite⟩
  · rw [compile_eq] at stopped
    have reading : Within laidOut payload.workflow :=
      (json_laidOut payload).bind fun value _ => Payload.ofJson_unbroken value
    refine reading.bind (fun workflow read => ?_) _ stopped fault rfl
    have suits : workflow.Suits laidOut := ⟨fun _ _ => liftShape_laidOut _, judges_laidOut _,
      fun _ => reads_laidOut _, fun _ _ _ _ => judges_laidOut _, fun _ _ _ _ _ => reads_laidOut _,
      pairwise_of_forall compares_laidOut, fun node _ => suits_laidOut node.config⟩
    refine (checkedGraph_within suits).bind fun graph loaded => ?_
    obtain ⟨rfl, valid⟩ := checkedGraph_eq_ok_iff.1 loaded
    exact generateSource_within settings valid (Payload.finite_of_workflow read) suits

def half : Binary64 := .ofRatio false 1 2

/-- A document whose state variable starts as a half. -/
def sampledDocument : Json :=
  .obj [("entry_node_id", .str "s"),
    ("input_schema", .obj [("properties", .obj [("input_as_text", .obj [])])]),
    ("state", .obj [("rate", .obj [("type", .str "number"), ("default", .float half)])]),
    ("nodes", .arr [.obj [("id", .str "s"), ("kind", .str "start")],
      .obj [("id", .str "e"), ("kind", .str "end")]]),
    ("edges", .arr [.obj [("from", .str "s"), ("to", .str "e")]])]

theorem nonFinite_numbers_stop_at_sampling :
    ∃ workflow, (Payload.value sampledDocument).workflow = .ok workflow ∧
      sampledDocument.at? [2, 0, 1] =
        some ([.key "state", .key "rate", .key "default"], .float half) ∧
      (Literal.scalar (.float half)).writeAtom = .ok "0.5" ∧
      ∀ unit, (Literal.ofJson sampledDocument).HasLayout unit := by
  have read : ∃ workflow, (Payload.value sampledDocument).workflow = .ok workflow := ⟨_, rfl⟩
  obtain ⟨workflow, read⟩ := read
  obtain ⟨_, given, written, laid⟩ :=
    (nonFinite_numbers_stop_at_reading (.value sampledDocument)).2.1 workflow read
  obtain rfl := Except.ok.inj given
  have text : half.toText = "0.5" := by decide +kernel
  exact ⟨workflow, read, rfl, text ▸ written [2, 0, 1] _ half rfl, laid⟩

end AgentFlow
