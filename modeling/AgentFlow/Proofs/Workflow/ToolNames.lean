import AgentFlow.Emit.FunctionTool
import AgentFlow.Proofs.Text.Lines
import AgentFlow.Proofs.Workflow.Finite

/-!
# The names of function tools

A workflow is refused while it is decoded if the name of a function tool is not plain.  A plain name
is an identifier, unless a line break stands after it.  The names of parameters are checked when the
tool is declared, and they are identifiers.
-/

namespace AgentFlow

open List

/-! ## Plain names -/

namespace CodePoint

variable {c : CodePoint}

theorem startsIdentifier_of_plain (starts : c.startsPlainName = true) :
    c.startsIdentifier = true := by
  have ascii : ∀ n < 0x7B, ((0x41 ≤ n && n ≤ 0x5A) || (0x61 ≤ n && n ≤ 0x7A) || n = 0x5F) = true →
      ((Text.letterRanges.contains n && !Text.nonStarterRanges.contains n) ||
        Text.extraStarterRanges.contains n) = true := by decide +kernel
  refine ascii c.toNat ?_ starts
  simp only [startsPlainName, Bool.or_eq_true, Bool.and_eq_true, decide_eq_true_eq] at starts
  omega

theorem continuesIdentifier_of_plain (continues : c.continuesPlainName = true) :
    c.continuesIdentifier = true := by
  unfold continuesPlainName at continues
  unfold continuesIdentifier
  rw [Bool.or_eq_true] at continues ⊢
  refine continues.imp startsIdentifier_of_plain fun digit => ?_
  have ascii : ∀ n < 0x3A, 0x30 ≤ n → Text.continuerRanges.contains n = true := by decide +kernel
  simp only [isAsciiDigit, Bool.and_eq_true, decide_eq_true_eq] at digit
  exact ascii c.toNat (by omega) digit.1

theorem continuesIdentifier_break : continuesIdentifier '\n' = false := by decide +kernel

end CodePoint

namespace Text

variable {name : Text}

/-- A name with a line break after it. -/
def Breaks (name : Text) : Prop := name.getLast? = some ('\n' : CodePoint)

instance : Decidable name.Breaks := inferInstanceAs (Decidable (_ = _))

theorem all_continues_of_isIdentifier (identifier : name.isIdentifier = true) :
    ∀ c ∈ name, c.continuesIdentifier = true := by
  cases name with
  | nil => cases identifier
  | cons first rest =>
    rw [isIdentifier, Bool.and_eq_true, all_eq_true] at identifier
    refine forall_mem_cons.2 ⟨?_, identifier.2⟩
    rw [CodePoint.continuesIdentifier, identifier.1, Bool.true_or]

/-- **A plain name is an identifier if no line break stands after it.** -/
theorem isIdentifier_iff_of_plain (plain : name.isPlainName = true) :
    name.isIdentifier = true ↔ ¬ name.Breaks := by
  constructor
  · intro identifier breaks
    have continues := all_continues_of_isIdentifier identifier _ (mem_of_getLast? breaks)
    exact absurd continues (by simp [CodePoint.continuesIdentifier_break])
  · intro whole
    have kept : name.dropLineBreak = name := if_neg whole
    unfold isPlainName at plain
    rw [kept] at plain
    split at plain
    · cases plain
    · rw [Bool.and_eq_true, all_eq_true] at plain
      rw [isIdentifier, Bool.and_eq_true, all_eq_true]
      exact ⟨CodePoint.startsIdentifier_of_plain plain.1,
        fun c member => CodePoint.continuesIdentifier_of_plain (plain.2 c member)⟩

theorem oneLine_of_isIdentifier (identifier : name.isIdentifier = true) :
    name.OneLine := fun member =>
  absurd (all_continues_of_isIdentifier identifier _ member)
    (by simp [CodePoint.continuesIdentifier_break])

/-- A plain name is a text of plain code points, which a line break may end. -/
theorem plain_dropLineBreak (plain : name.isPlainName = true) :
    (∀ c ∈ name.dropLineBreak, c.continuesPlainName = true) ∧
      (name = name.dropLineBreak ∨ name = name.dropLineBreak ++ [.scalar '\n']) := by
  constructor
  · unfold isPlainName at plain
    split at plain
    · cases plain
    · next shape =>
        rw [Bool.and_eq_true, all_eq_true] at plain
        rw [shape]
        refine forall_mem_cons.2 ⟨?_, plain.2⟩
        simp [CodePoint.continuesPlainName, plain.1]
  · unfold dropLineBreak
    split
    · next last => exact .inr (dropLast_append_getLast? _ last).symm
    · exact .inl rfl

end Text

/-! ## Decoding tools -/

namespace Decode

theorem makes_refined {α : Type} (decoder : Decoder α) (reason? : α → Option Text) :
    Makes (refine decoder reason?) fun value => reason? value = none := by
  intro value _ result done
  obtain ⟨decoded, _, kept⟩ := Checked.andThen_eq_valid.1 done
  split at kept
  · cases kept
  · next accepted =>
      cases kept
      exact accepted

end Decode

namespace Workflow

open Decode Checked Emit

/-- The function tools of a node of a configuration have plain names. -/
def Config.HasPlainTools (config : Config) : Prop :=
  ∀ node : Node, node.config = config → ∀ tool ∈ toolsOf node, tool.name.isPlainName = true

theorem makes_functionTool : MakesFields functionToolFields fun tool =>
    tool.name.isPlainName = true := by
  intro entries finite tool done
  simp only [functionToolFields, seq_eq_valid, map_eq_valid] at done
  obtain ⟨_, ⟨_, ⟨_, ⟨_, _, rfl⟩, name, given, rfl⟩, _, _, rfl⟩, _, _, rfl⟩ := done
  have accepted := of_required (makes_refined _ _) finite given
  dsimp only at accepted ⊢
  split at accepted
  · assumption
  · cases accepted

theorem makes_plainTools (kind : Kind) : Makes (decodeConfig kind) Config.HasPlainTools := by
  have without : ∀ {α : Type} {decoder : Decoder α} {f : α → Config},
      (∀ value (node : Node), node.config = f value → toolsOf node = []) →
        Makes (fun value => f <$> decoder value) Config.HasPlainTools := by
    intro α decoder f none value _ result done node same tool used
    obtain ⟨decoded, _, rfl⟩ := map_eq_valid.1 done
    rw [none decoded node same] at used
    cases used
  cases kind with
  | start =>
    refine makes_record ?_
    rintro entries - _ ⟨⟩ node same tool used
    unfold toolsOf at used
    rw [same] at used
    cases used
  | agent =>
    refine makes_map (makes_record fun entries finite config done => ?_)
    simp only [seq_eq_valid, map_eq_valid] at done
    obtain ⟨_, ⟨_, ⟨_, ⟨_, ⟨_, ⟨_, ⟨_, ⟨_, ⟨_, _, rfl⟩, _, _, rfl⟩, _, _, rfl⟩, tools, given,
      rfl⟩, _, _, rfl⟩, _, _, rfl⟩, _, _, rfl⟩, _, _, rfl⟩, _, _, rfl⟩ := done
    have decodes : Makes decodeAgentTool fun tool =>
        ∀ function, tool = .function function → function.name.isPlainName = true := by
      refine makes_tagged (forall_mem_cons.2 ⟨?_, forall_mem_singleton.2 ?_⟩)
      · refine makes_map (makes_record fun entries finite tool done => ?_)
        rintro _ ⟨⟩
        exact makes_functionTool finite done
      · rintro value - result done function rfl
        obtain ⟨search, _, same⟩ := map_eq_valid.1 done
        cases same
    have each := of_withDefault (makes_list decodes) finite given nofun
    intro node same tool used
    unfold toolsOf at used
    rw [same] at used
    obtain ⟨definition, among, chosen⟩ := mem_filterMap.1 used
    cases definition with
    | function function =>
      cases chosen
      exact each _ among _ rfl
    | webSearch search => cases chosen
  | functionTool =>
    refine makes_map (makes_record fun entries finite call done => ?_)
    obtain ⟨_, first, arguments, _, rfl⟩ := seq_eq_valid.1 done
    obtain ⟨tool, fields, rfl⟩ := map_eq_valid.1 first
    intro node same used member
    unfold toolsOf at member
    rw [same, mem_singleton] at member
    rw [member]
    exact makes_functionTool finite fields
  | _ =>
    refine without fun value node same => ?_
    rw [toolsOf, same]

/-- **The function tools of a workflow that has been read have plain names.** -/
theorem hasPlainTools_of_ofJson {value : Json} {workflow : Workflow}
    (read : ofJson value = .ok workflow) :
    ∀ node ∈ workflow.nodes, ∀ tool ∈ toolsOf node, tool.name.isPlainName = true := by
  obtain ⟨finite, decoded⟩ := decoded_of_ofJson read
  have nodes : Makes decodeNode fun node => node.config.HasPlainTools := by
    refine makes_node makes_plainTools fun kind config isDefault node same tool used => ?_
    unfold toolsOf at used
    rw [same] at used
    cases kind <;> cases isDefault <;> cases used
  exact fun node listed => (makes_workflow nodes finite decoded).2 node listed node rfl

end Workflow

/-! ## Declaring tools -/

namespace Emit

open Workflow

/-- What is sure of a parameter: its name can be used, and its type is that of a schema. -/
structure Parameter.Fits (parameter : Parameter) : Prop where
  identifier : parameter.name.isIdentifier = true
  free : Target.isKeyword parameter.name = false
  typed : ∃ schema, parameter.type = Schema.typeName schema

theorem parametersOf_fit {tool : Text} {required : List Json} {properties : Entries}
    {found : List Parameter} (done : parametersOf tool required properties = .ok found) :
    ∀ parameter ∈ found, parameter.Fits := by
  induction properties generalizing found with
  | nil =>
    cases done
    nofun
  | cons property rest ih =>
    obtain ⟨name, schema⟩ := property
    rw [parametersOf] at done
    split at done
    · cases done
    · next usable =>
        obtain ⟨others, more, same⟩ := Except.bind_eq_ok.1 done
        rw [← Except.pure_eq_ok.1 same]
        simp only [Bool.or_eq_true, Bool.not_eq_true', not_or, Bool.not_eq_true,
          Bool.not_eq_false] at usable
        exact forall_mem_cons.2 ⟨⟨usable.1, usable.2, schema, rfl⟩, ih more⟩

theorem parameters_fit {tool : FunctionTool} {found : List Parameter}
    (listed : parameters tool = .ok found) : ∀ parameter ∈ found, parameter.Fits := by
  obtain ⟨required, _, rest⟩ := Except.bind_eq_ok.1 listed
  obtain ⟨properties, _, rest⟩ := Except.bind_eq_ok.1 rest
  obtain ⟨all, done, same⟩ := Except.bind_eq_ok.1 rest
  rw [← Except.pure_eq_ok.1 same]
  intro parameter member
  refine parametersOf_fit done parameter ?_
  rcases mem_append.1 member with asked | other
  · exact (mem_filter.1 asked).1
  · exact (mem_filter.1 other).1

theorem toolNamed_name (context : Context) (tool : FunctionTool) :
    (toolNamed context tool).name = tool.name := by
  unfold toolNamed
  cases found : context.tools.find? (·.name = tool.name) with
  | none => rfl
  | some known => simpa using find?_some found

end Emit

end AgentFlow
