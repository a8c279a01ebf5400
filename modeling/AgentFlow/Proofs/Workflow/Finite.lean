import AgentFlow.Proofs.Layout.Finite
import AgentFlow.Workflow.Document

/-!
# The numbers of a workflow are finite

A document is refused if a number in it is not finite, before it is decoded.  Decoding keeps free
form values as they are, or puts defaults in their place, so all numbers that a workflow holds are
finite.  There is one rule for each way to decode; the workflow is decoded by these.
-/

namespace AgentFlow

open List
open Json (Everywhere IsFinite)

/-! ## Numbers in a document -/

namespace Json

/-- What stands directly in a value, each with the step that leads there. -/
def branches : Json → List (Decode.Step × Json)
  | .arr items => items.zipIdx.map fun item => (.index item.2, item.1)
  | .obj entries => entries.map fun entry => (.key entry.1, entry.2)
  | _ => []

theorem forall_branch_arr {items : List Json} {property : Json → Prop} :
    (∀ branch ∈ (arr items).branches, property branch.2) ↔ ∀ item ∈ items, property item := by
  rw [branches, forall_mem_map, ← forall_mem_map (f := Prod.fst), zipIdx_map_fst]

theorem branch_induction {motive : Json → Prop}
    (step : ∀ value, (∀ branch ∈ value.branches, motive branch.2) → motive value) (value : Json) :
    motive value := by
  induction value using Json.induction with
  | arr items each => exact step _ (forall_branch_arr.2 each)
  | obj entries each => exact step _ (forall_mem_map.2 each)
  | _ => exact step _ nofun

theorem everywhere_iff {holds : Json → Prop} {value : Json} : value.Everywhere holds ↔
    holds value ∧ ∀ branch ∈ value.branches, branch.2.Everywhere holds := by
  cases value with
  | arr items => rw [everywhere_arr, forall_branch_arr]
  | obj entries => rw [everywhere_obj, branches, forall_mem_map]
  | _ => exact ⟨fun each => ⟨everywhere_self each, nofun⟩, fun each => everywhere_scalar rfl each.1⟩

end Json

namespace Workflow

def inBranch (branch : Decode.Step × Json) : List (List Decode.Step × Binary64) :=
  (nonFinite branch.2).map fun found => (branch.1 :: found.1, found.2)

/-- What is not itself a number is searched by searching its branches. -/
theorem nonFinite_eq (value : Json) (other : ∀ x, value ≠ .float x) :
    nonFinite value = value.branches.flatMap inBranch := by
  have listed (items : List Json) (start : Nat) : nonFiniteItems start items =
      ((items.zipIdx start).map fun item => (.index item.2, item.1)).flatMap inBranch := by
    induction items generalizing start with
    | nil => rfl
    | cons item rest ih =>
      rw [nonFiniteItems, ih]
      rfl
  have keyed (entries : Entries) :
      nonFiniteEntries entries = (Json.obj entries).branches.flatMap inBranch := by
    induction entries with
    | nil => rfl
    | cons entry rest ih =>
      rw [nonFiniteEntries, ih]
      rfl
  cases value with
  | float x => exact absurd rfl (other x)
  | arr items => exact listed items 0
  | obj entries => exact keyed entries
  | _ => rfl

theorem nonFinite_eq_nil_iff {value : Json} : nonFinite value = [] ↔ value.Everywhere IsFinite := by
  induction value using Json.branch_induction with
  | step value each =>
    rw [Json.everywhere_iff]
    by_cases number : ∃ x, value = .float x
    · obtain ⟨x, rfl⟩ := number
      simp [nonFinite, IsFinite, Json.branches]
    · have plain : value.IsFinite := by
        cases value with
        | float x => exact absurd ⟨x, rfl⟩ number
        | _ => trivial
      rw [nonFinite_eq value (not_exists.1 number), flatMap_eq_nil_iff, and_iff_right plain]
      exact forall₂_congr fun branch listed => map_eq_nil_iff.trans (each branch listed)

end Workflow

/-! ## Ways to decode -/

namespace Decode

variable {α β : Type} {property : α → Prop} {entries : Entries} {decoder : Decoder α} {name : Text}
  {result : α} {fields : Entries → Checked α}

namespace Checked

variable {given : Checked α} {result : β}

theorem map_eq_valid {f : α → β} :
    f <$> given = .valid result ↔ ∃ value, given = .valid value ∧ f value = result := by
  show map f given = _ ↔ _
  cases given <;> simp [map]

theorem seq_eq_valid {f : Checked (α → β)} :
    f <*> given = .valid result ↔
      ∃ function, f = .valid function ∧
        ∃ value, given = .valid value ∧ function value = result := by
  show apply f given = _ ↔ _
  cases f <;> cases given <;> simp [apply]

theorem under_eq_valid {step : Step} {result : α} :
    given.under step = .valid result ↔ given = .valid result := by
  cases given <;> simp [under]

theorem andThen_eq_valid {next : α → Checked β} :
    given.andThen next = .valid result ↔
      ∃ value, given = .valid value ∧ next value = .valid result := by
  cases given <;> simp [andThen]

theorem forall_of_all {given : List (Checked α)} {results : List α}
    (done : all given = .valid results)
    (each : ∀ item ∈ given, ∀ result, item = .valid result → property result) :
    ∀ result ∈ results, property result := by
  induction given generalizing results with
  | nil =>
    cases done
    nofun
  | cons first rest ih =>
    obtain ⟨_, mapped, others, remaining, rfl⟩ := seq_eq_valid.1 done
    obtain ⟨value, there, rfl⟩ := map_eq_valid.1 mapped
    obtain ⟨here, later⟩ := forall_mem_cons.1 each
    exact forall_mem_cons.2 ⟨here value there, ih remaining later⟩

end Checked

open Checked

/-- The numbers in entries are finite. -/
def FiniteEntries (entries : Entries) : Prop := ∀ entry ∈ entries, entry.2.Everywhere IsFinite

/-- From values whose numbers are finite, a decoder makes only results with a property. -/
def Makes (decoder : Decoder α) (property : α → Prop) : Prop :=
  ∀ ⦃value : Json⦄, value.Everywhere IsFinite → ∀ ⦃result : α⦄, decoder value = .valid result →
    property result

theorem everywhere_of_get? (finite : FiniteEntries entries) {key : Text} {value : Json}
    (found : entries.get? key = some value) : value.Everywhere IsFinite := by
  obtain ⟨before, after, split, _⟩ := lookup_eq_some_iff.1 found
  exact finite (key, value) (by rw [split]; simp)

theorem makes_anything : Makes anything (Everywhere IsFinite) := by
  rintro value finite _ ⟨⟩
  exact finite

theorem makes_object : Makes object FiniteEntries := by
  intro value finite result done
  unfold object at done
  split at done
  · cases done
    exact (Json.everywhere_obj.1 finite).2
  · cases done

theorem makes_list (makes : Makes decoder property) :
    Makes (list decoder) fun results => ∀ result ∈ results, property result := by
  intro value finite results done
  unfold list at done
  split at done
  · next items =>
      refine forall_of_all done fun item member result same => ?_
      obtain ⟨index, bound, rfl⟩ := mem_mapIdx.1 member
      exact makes ((Json.everywhere_arr.1 finite).2 _ (getElem_mem bound)) (under_eq_valid.1 same)
  · cases done

theorem makes_dictionary (makes : Makes decoder property) :
    Makes (dictionary decoder) fun results => ∀ result ∈ results, property result.2 := by
  intro value finite results done
  unfold dictionary at done
  split at done
  · next entries =>
      refine forall_of_all done fun item member result same => ?_
      obtain ⟨entry, among, rfl⟩ := mem_map.1 member
      obtain ⟨decoded, there, rfl⟩ := map_eq_valid.1 (under_eq_valid.1 same)
      exact makes ((Json.everywhere_obj.1 finite).2 entry among) there
  · cases done

theorem makes_refine (makes : Makes decoder property) (reason? : α → Option Text) :
    Makes (refine decoder reason?) property := by
  intro value finite result done
  obtain ⟨decoded, there, kept⟩ := andThen_eq_valid.1 done
  split at kept
  · cases kept
  · cases kept
    exact makes finite there

theorem of_required (makes : Makes decoder property) (finite : FiniteEntries entries)
    (done : required name decoder entries = .valid result) : property result := by
  unfold required at done
  split at done
  · next value found =>
      exact makes (everywhere_of_get? finite found) (under_eq_valid.1 done)
  · cases done

theorem of_withDefault {default : α} (makes : Makes decoder property)
    (finite : FiniteEntries entries)
    (done : withDefault name default decoder entries = .valid result)
    (otherwise : property default) :
    property result := by
  unfold withDefault at done
  split at done
  · next value found =>
      exact makes (everywhere_of_get? finite found) (under_eq_valid.1 done)
  · cases done
    exact otherwise

/-- The fields of a record make only results with a property. -/
def MakesFields (fields : Entries → Checked α) (property : α → Prop) : Prop :=
  ∀ ⦃entries : Entries⦄, FiniteEntries entries → ∀ ⦃result : α⦄, fields entries = .valid result →
    property result

theorem makes_record (makes : MakesFields fields property) :
    Makes (record name fields) property := by
  intro value finite result done
  unfold record at done
  split at done
  · exact makes (Json.everywhere_obj.1 finite).2 done
  · cases done

theorem makes_strictRecord {known : Entries → List Text} (makes : MakesFields fields property) :
    Makes (strictRecord name known fields) property := by
  intro value finite result done
  unfold strictRecord at done
  split at done
  · next entries =>
      dsimp only at done
      split at done
      · cases done
      · obtain ⟨_, mapped, _, _, rfl⟩ := seq_eq_valid.1 done
        obtain ⟨decoded, there, rfl⟩ := map_eq_valid.1 mapped
        exact makes (Json.everywhere_obj.1 finite).2 there
  · cases done

theorem makes_tagged {discriminator : Text} {options : List (Text × Decoder α)}
    (each : ∀ option ∈ options, Makes option.2 property) :
    Makes (tagged discriminator options) property := by
  intro value finite result done
  unfold tagged at done
  split at done
  · split at done
    · cases done
    · dsimp only at done
      split at done
      · next name decoder chosen =>
          split at chosen
          · exact each _ (mem_of_find?_eq_some chosen) finite (under_eq_valid.1 done)
          · cases chosen
      · cases done
  · cases done

theorem makes_map {f : α → β} {wrapped : β → Prop}
    (makes : Makes decoder fun value => wrapped (f value)) :
    Makes (fun value => f <$> decoder value) wrapped := by
  intro value finite result done
  obtain ⟨decoded, there, rfl⟩ := map_eq_valid.1 done
  exact makes finite there

end Decode

/-! ## Workflows -/

namespace Workflow

open Decode Checked

/-- The free-form values that the code of a node writes out. -/
def Config.values : Config → List Json
  | .agent config => config.tools.filterMap fun tool => match tool with
    | .webSearch search => some (.obj search.userLocation)
    | .function _ => none
  | .mcpTool config => config.calls.map fun call => .obj call.arguments
  | .guardrail config => config.policies.map fun policy => .obj policy.config
  | _ => []

/-- The numbers that the code of a node writes out are finite. -/
def Config.Finite (config : Config) : Prop := ∀ value ∈ config.values, value.Everywhere IsFinite

/-- The numbers that the code of a workflow writes out are finite. -/
structure Finite (workflow : Workflow) : Prop where
  state : ∀ declared ∈ workflow.state, declared.2.default.Everywhere IsFinite
  nodes : ∀ node ∈ workflow.nodes, node.config.Finite

theorem everywhere_obj_iff {entries : Entries} :
    (Json.obj entries).Everywhere IsFinite ↔ FiniteEntries entries := by
  rw [Json.everywhere_obj]
  exact and_iff_right trivial

theorem makes_agentTool : Makes decodeAgentTool fun tool =>
    ∀ search, tool = .webSearch search → FiniteEntries search.userLocation := by
  refine makes_tagged ?_
  refine forall_mem_cons.2 ⟨?_, forall_mem_singleton.2 ?_⟩
  · rintro value - result done search rfl
    obtain ⟨tool, _, same⟩ := map_eq_valid.1 done
    cases same
  · refine makes_map (makes_record fun entries finite search done => ?_)
    obtain ⟨_, first, location, given, rfl⟩ := seq_eq_valid.1 done
    obtain ⟨size, _, rfl⟩ := map_eq_valid.1 first
    rintro _ ⟨⟩
    refine of_withDefault makes_object finite given ?_
    exact forall_mem_singleton.2 (Json.everywhere_scalar rfl trivial)

theorem makes_agent : Makes decodeAgent fun config => (Config.agent config).Finite := by
  refine makes_record fun entries finite config done => ?_
  simp only [seq_eq_valid, map_eq_valid] at done
  obtain ⟨_, ⟨_, ⟨_, ⟨_, ⟨_, ⟨_, ⟨_, ⟨_, ⟨_, _, rfl⟩, _, _, rfl⟩, _, _, rfl⟩, tools, given, rfl⟩, _,
    _, rfl⟩, _, _, rfl⟩, _, _, rfl⟩, _, _, rfl⟩, _, _, rfl⟩ := done
  have each := of_withDefault (makes_list makes_agentTool) finite given nofun
  intro value listed
  obtain ⟨tool, among, same⟩ := mem_filterMap.1 listed
  cases tool with
  | function tool => cases same
  | webSearch search =>
    cases same
    exact everywhere_obj_iff.2 (each _ among search rfl)

theorem makes_server : Makes decodeServer fun config => (Config.mcpTool config).Finite := by
  refine makes_refine (makes_record fun entries finite config done => ?_) _
  simp only [seq_eq_valid, map_eq_valid] at done
  obtain ⟨_, ⟨_, ⟨_, ⟨_, ⟨_, ⟨_, _, rfl⟩, _, _, rfl⟩, _, _, rfl⟩, _, _, rfl⟩, _, _, rfl⟩, calls,
    given, rfl⟩ := done
  have call : Makes decodeToolCall fun call => FiniteEntries call.arguments := by
    refine makes_record fun entries finite call done => ?_
    obtain ⟨_, first, arguments, given, rfl⟩ := seq_eq_valid.1 done
    obtain ⟨tool, _, rfl⟩ := map_eq_valid.1 first
    exact of_withDefault makes_object finite given (forall_mem_nil _)
  have each := of_withDefault (makes_list call) finite given (by simp)
  intro value listed
  obtain ⟨call, among, rfl⟩ := mem_map.1 listed
  exact everywhere_obj_iff.2 (each call among)

theorem makes_guardrail : Makes decodeGuardrail fun config => (Config.guardrail config).Finite := by
  refine makes_record fun entries finite config done => ?_
  simp only [seq_eq_valid, map_eq_valid] at done
  obtain ⟨_, ⟨_, ⟨_, _, rfl⟩, policies, given, rfl⟩, _, _, rfl⟩ := done
  have policy : Makes decodePolicy fun policy => FiniteEntries policy.config := by
    refine makes_record fun entries finite policy done => ?_
    obtain ⟨_, first, config, given, rfl⟩ := seq_eq_valid.1 done
    obtain ⟨kind, _, rfl⟩ := map_eq_valid.1 first
    exact of_withDefault makes_object finite given (forall_mem_nil _)
  have each := of_withDefault (makes_list policy) finite given (by simp)
  intro value listed
  obtain ⟨policy, among, rfl⟩ := mem_map.1 listed
  exact everywhere_obj_iff.2 (each policy among)

/-- A node of a kind that writes out no free-form values. -/
theorem makes_bare {α : Type} {decoder : Decoder α} {f : α → Config}
    (bare : ∀ value, (f value).values = []) :
    Makes (fun value => f <$> decoder value) Config.Finite := by
  intro value _ result done
  obtain ⟨decoded, _, rfl⟩ := map_eq_valid.1 done
  unfold Config.Finite
  rw [bare]
  exact forall_mem_nil _

theorem makes_config (kind : Kind) : Makes (decodeConfig kind) Config.Finite := by
  cases kind with
  | start =>
    refine makes_record ?_
    rintro entries - _ ⟨⟩
    nofun
  | agent => exact makes_map makes_agent
  | mcpTool => exact makes_map makes_server
  | guardrail => exact makes_map makes_guardrail
  | _ => exact makes_bare fun _ => rfl

/-- A property of configurations that all decoders of them and all defaults ensure. -/
theorem makes_node {property : Config → Prop}
    (configs : ∀ kind, Makes (decodeConfig kind) property)
    (defaults : ∀ kind config, defaultConfig? kind = some config → property config) :
    Makes decodeNode fun node => property node.config := by
  refine makes_tagged fun option listed => ?_
  obtain ⟨kind, _, rfl⟩ := mem_map.1 listed
  refine makes_record fun entries finite node done => ?_
  obtain ⟨_, first, config, given, rfl⟩ := seq_eq_valid.1 done
  obtain ⟨_, second, label, _, rfl⟩ := seq_eq_valid.1 first
  obtain ⟨id, _, rfl⟩ := map_eq_valid.1 second
  split at given
  · next default isDefault =>
      exact of_withDefault (configs kind) finite given (defaults kind default isDefault)
  · exact of_required (configs kind) finite given

theorem makes_state : Makes decodeState fun declared =>
    ∀ variable_ ∈ declared, variable_.2.default.Everywhere IsFinite := by
  have declaration : Makes decodeStateVariable fun declared =>
      declared.default.Everywhere IsFinite := by
    refine makes_strictRecord fun entries finite declared done => ?_
    obtain ⟨_, first, default, given, rfl⟩ := seq_eq_valid.1 done
    obtain ⟨type, _, rfl⟩ := map_eq_valid.1 first
    exact of_withDefault makes_anything finite given (Json.everywhere_scalar rfl trivial)
  exact makes_refine (makes_dictionary declaration) _

theorem makes_workflow {property : Node → Prop} (makes : Makes decodeNode property) :
    Makes decode fun workflow =>
      (∀ declared ∈ workflow.state, declared.2.default.Everywhere IsFinite) ∧
        ∀ node ∈ workflow.nodes, property node := by
  refine makes_strictRecord fun entries finite workflow done => ?_
  simp only [seq_eq_valid, map_eq_valid] at done
  obtain ⟨_, ⟨_, ⟨_, ⟨_, ⟨_, ⟨_, ⟨_, _, rfl⟩, _, _, rfl⟩, state, declared, rfl⟩, _, _, rfl⟩, _, _,
    rfl⟩, nodes, listed, rfl⟩, _, _, rfl⟩ := done
  exact ⟨of_withDefault makes_state finite declared nofun,
    of_withDefault (makes_list makes) finite listed nofun⟩

variable {value : Json} {workflow : Workflow}

/-- A workflow is read by decoding a document whose numbers are finite. -/
theorem decoded_of_ofJson (read : ofJson value = .ok workflow) :
    value.Everywhere IsFinite ∧ decode value = .valid workflow := by
  unfold ofJson at read
  split at read
  · obtain ⟨_, _, checked⟩ := Except.bind_eq_ok.1 read
    split at checked
    · next none =>
        split at checked
        · next decoded =>
            cases checked
            exact ⟨nonFinite_eq_nil_iff.1 none, decoded⟩
        · cases checked
    · cases checked
  · cases read

/-- **The numbers of a workflow that has been read are finite.** -/
theorem finite_of_ofJson (read : ofJson value = .ok workflow) : workflow.Finite := by
  obtain ⟨finite, decoded⟩ := decoded_of_ofJson read
  have node : Makes decodeNode fun node => node.config.Finite := by
    refine makes_node makes_config fun kind config isDefault => ?_
    cases kind <;> cases isDefault <;> nofun
  obtain ⟨state, nodes⟩ := makes_workflow node finite decoded
  exact ⟨state, nodes⟩

end Workflow

end AgentFlow
