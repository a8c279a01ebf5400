import AgentFlow.Proofs.Emit.Asking
import AgentFlow.Proofs.Linear.Walk

/-!
# Declarations never clash

A declaration is kept under its key, and two different ones under one key would be a conflict.  Most
keys belong to one owner alone, a node or a name that was handed out; the others are those of
declarations that all nodes share.  So whatever a node declares is shared or under a new key.
-/

namespace AgentFlow

open List

/-- Texts that differ at some place still do so when they go on. -/
theorem Text.append_ne_append {first second : Text}
    (apart : (first.zip second).any (fun pair => pair.1 ≠ pair.2) = true) (rest other : Text) :
    first ++ rest ≠ second ++ other := by
  induction first generalizing second with
  | nil => simp at apart
  | cons head tail ih =>
    cases second with
    | nil => simp at apart
    | cons head' tail' =>
      intro same
      obtain ⟨rfl, tails⟩ := List.cons.inj same
      refine ih ?_ tails
      simpa using apart

namespace Emit

open Workflow Linear

/-! ## Keys -/

/-- What keys are made of: a word for what is declared, and a text that tells apart what the same
word stands for. -/
inductive KeyWord where
  | webSearch | bundle | agent | approval | tool | client | helpers
deriving DecidableEq

def KeyWord.text : KeyWord → Text
  | webSearch => "web_search:"
  | bundle => "guardrails_bundle:"
  | agent => "agent:"
  | approval => "approval:"
  | tool => "function_tool:"
  | client => "shared_client"
  | helpers => "guardrail_helpers"

def KeyWord.key (word : KeyWord) (rest : Text) : Text := word.text ++ rest

theorem KeyWord.key_inj {word other : KeyWord} {rest rest' : Text}
    (same : word.key rest = other.key rest') : word = other ∧ rest = rest' := by
  have apart : word ≠ other →
      (word.text.zip other.text).any (fun pair => pair.1 ≠ pair.2) = true := by
    cases word <;> cases other <;> decide +kernel
  by_cases equal : word = other
  · subst equal
    exact ⟨rfl, append_cancel_left same⟩
  · exact absurd same (Text.append_ne_append (apart equal) _ _)

inductive Owner where
  | symbol (name : Text)
  | node (id : Text)

/-- The keys of what belongs to an owner. -/
inductive Owner.Has : Owner → Text → Prop
  | webSearch (name : Text) : Has (symbol name) (KeyWord.webSearch.key name)
  | bundle (name : Text) : Has (symbol name) (KeyWord.bundle.key name)
  | agent (id : Text) : Has (node id) (KeyWord.agent.key id)
  | approval (id : Text) : Has (node id) (KeyWord.approval.key id)

theorem Owner.Has.unique {owner other : Owner} {key key' : Text} (mine : owner.Has key)
    (theirs : other.Has key') (same : key = key') : owner = other := by
  cases mine <;> cases theirs <;> obtain ⟨words, rests⟩ := KeyWord.key_inj same <;> cases words <;>
    rw [rests]

/-! ## Shared declarations -/

/-- The declarations that belong to nobody, with their words: those of known tools, of the client,
and of the helpers of guardrails. -/
inductive Shared (context : Context) : KeyWord → Text → Module.Declaration → Prop
  | tool {tool : FunctionTool} {declaration} (known : tool ∈ context.tools)
      (declared : toolDeclaration tool context.unit = .ok declaration) :
      Shared context .tool tool.name declaration
  | client : Shared context .client [] clientDeclaration
  | helpers : Shared context .helpers [] (helperDeclaration context.unit)

variable {context : Context} {first second : Module.Declaration} {word word' : KeyWord}
  {rest rest' : Text} {before middle after : List Owner} {owner : Owner}
  {declarations more : List Module.Declaration}

variable {tool : FunctionTool} {node : Node} {draft : Draft} {emission : Emission}

theorem toolDeclaration_key {unit : Text} (declared : toolDeclaration tool unit = .ok first) :
    first.key = KeyWord.tool.key tool.name := by
  obtain ⟨_, _, made⟩ := Except.bind_eq_ok.1 declared
  rw [← Except.pure_eq_ok.1 made]
  rfl

theorem webSearchDeclaration_key {symbol : Text} {tool : WebSearch}
    (declared : webSearchDeclaration context symbol tool = .ok first) :
    first.key = KeyWord.webSearch.key symbol := by
  obtain ⟨_, _, made⟩ := Except.bind_eq_ok.1 declared
  rw [← Except.pure_eq_ok.1 made]
  rfl

theorem clientDeclaration_key : clientDeclaration.key = KeyWord.client.key [] :=
  (append_nil _).symm

theorem helperDeclaration_key (unit : Text) :
    (helperDeclaration unit).key = KeyWord.helpers.key [] :=
  (append_nil _).symm

theorem Shared.key (shared : Shared context word rest first) : first.key = word.key rest := by
  cases shared with
  | tool known declared => exact toolDeclaration_key declared
  | client => exact clientDeclaration_key
  | helpers => exact helperDeclaration_key _

theorem Shared.not_has (shared : Shared context word rest first) : ¬ owner.Has first.key := by
  intro mine
  rw [shared.key] at mine
  generalize same : word.key rest = key at mine
  cases mine <;> obtain ⟨rfl, _⟩ := KeyWord.key_inj same <;> cases shared

theorem Shared.unique (distinct : (context.tools.map FunctionTool.name).Nodup)
    (one : Shared context word rest first) (two : Shared context word' rest' second)
    (same : first.key = second.key) : first = second := by
  rw [one.key, two.key] at same
  obtain ⟨rfl, names⟩ := KeyWord.key_inj same
  cases one with
  | client =>
    cases two
    rfl
  | helpers =>
    cases two
    rfl
  | tool known declared =>
    cases two with
    | tool known' declared' =>
      obtain rfl := inj_on_of_nodup_map distinct known known' names
      exact Except.ok.inj (declared.symm.trans declared')

/-! ## Fresh declarations -/

/-- Declarations that are shared or belong to new owners, and that agree among themselves. -/
structure Fresh (context : Context) (before after : List Owner)
    (declarations : List Module.Declaration) : Prop where
  origin : ∀ declaration ∈ declarations, (∃ word rest, Shared context word rest declaration) ∨
    ∃ owner ∈ after, owner ∉ before ∧ owner.Has declaration.key
  agree : ∀ one ∈ declarations, ∀ other ∈ declarations, one.key = other.key → one = other

namespace Fresh

theorem nil : Fresh context before after [] := ⟨by simp, by simp⟩

theorem singleton_shared (shared : Shared context word rest first) :
    Fresh context before after [first] :=
  ⟨by simpa using .inl ⟨word, rest, shared⟩, by simp⟩

theorem singleton_owned (here : owner ∈ after) (new : owner ∉ before) (mine : owner.Has first.key) :
    Fresh context before after [first] :=
  ⟨by simpa using .inr ⟨owner, here, new, mine⟩, by simp⟩

/-- Fewer owners before or more of them afterwards make no difference. -/
theorem widen {fewer more : List Owner} (fresh : Fresh context before after declarations)
    (less : fewer ⊆ before) (wider : after ⊆ more) : Fresh context fewer more declarations := by
  refine ⟨fun declaration listed => ?_, fresh.agree⟩
  obtain shared | ⟨owner, here, new, mine⟩ := fresh.origin declaration listed
  · exact .inl shared
  · exact .inr ⟨owner, wider here, fun old => new (less old), mine⟩

theorem subset (fresh : Fresh context before after declarations) (fewer : more ⊆ declarations) :
    Fresh context before after more :=
  ⟨fun declaration listed => fresh.origin declaration (fewer listed),
    fun one listed other listed' => fresh.agree one (fewer listed) other (fewer listed')⟩

/-- **Fresh declarations after fresh declarations.** -/
theorem append (distinct : (context.tools.map FunctionTool.name).Nodup) (grown : before ⊆ middle)
    (grown' : middle ⊆ after) (one : Fresh context before middle declarations)
    (two : Fresh context middle after more) :
    Fresh context before after (declarations ++ more) := by
  have across : ∀ first ∈ declarations, ∀ second ∈ more, first.key = second.key →
      first = second := by
    intro first listed second listed' same
    obtain ⟨_, _, shared⟩ | ⟨owner, here, _, mine⟩ := one.origin first listed
    · obtain ⟨_, _, shared'⟩ | ⟨_, _, _, theirs⟩ := two.origin second listed'
      · exact shared.unique distinct shared' same
      · exact absurd (same ▸ theirs) shared.not_has
    · obtain ⟨_, _, shared'⟩ | ⟨other, _, new, theirs⟩ := two.origin second listed'
      · exact absurd (same ▸ mine) shared'.not_has
      · exact absurd (mine.unique theirs same ▸ here) new
  refine ⟨fun declaration listed => ?_, fun first listed second listed' same => ?_⟩
  · rcases mem_append.1 listed with listed | listed
    · exact (one.widen (List.Subset.refl _) grown').origin declaration listed
    · exact (two.widen grown (List.Subset.refl _)).origin declaration listed
  · rcases mem_append.1 listed with listed | listed <;>
      rcases mem_append.1 listed' with listed' | listed'
    · exact one.agree first listed second listed' same
    · exact across first listed second listed' same
    · exact (across second listed' first listed same.symm).symm
    · exact two.agree first listed second listed' same

end Fresh

/-- The owners once names are taken and nodes are entered. -/
def owners (taken entered : List Text) : List Owner := taken.map .symbol ++ entered.map .node

theorem symbol_mem_owners {taken entered : List Text} {name : Text} :
    .symbol name ∈ owners taken entered ↔ name ∈ taken := by
  simp [owners]

theorem node_mem_owners {taken entered : List Text} {id : Text} :
    .node id ∈ owners taken entered ↔ id ∈ entered := by
  simp [owners]

theorem owners_subset {taken later entered entered' : List Text} (names : taken ⊆ later)
    (ids : entered ⊆ entered') : owners taken entered ⊆ owners later entered' := by
  intro owner member
  cases owner with
  | symbol name => exact symbol_mem_owners.2 (names (symbol_mem_owners.1 member))
  | node id => exact node_mem_owners.2 (ids (node_mem_owners.1 member))

/-! ## What nodes declare -/

variable {entered taken later : List Text}

theorem subset_recorded (node : Node) (entered : List Text) : entered ⊆ recorded node entered := by
  unfold recorded
  split
  · exact List.Subset.refl _
  · exact subset_append_left _ _

theorem Served.grown {tools : List AgentTool} {parts : List ToolParts}
    (served : Served context taken later tools parts) : taken ⊆ later := by
  cases served with
  | nil => exact List.Subset.refl _
  | cons grown grown' _ _ => exact List.Subset.trans grown grown'

theorem Served.fresh {tools : List AgentTool} {parts : List ToolParts}
    (served : Served context taken later tools parts)
    (distinct : (context.tools.map FunctionTool.name).Nodup)
    (known : ∀ function, .function function ∈ tools → toolNamed context function ∈ context.tools)
    (entered : List Text) : Fresh context (owners taken entered) (owners later entered)
      (parts.flatMap ToolParts.declarations) := by
  induction served with
  | nil => exact .nil
  | @cons taken middle later tool tools part parts grown grown' first rest ih =>
    have fresh : Fresh context (owners taken entered) (owners middle entered)
        part.declarations := by
      cases first with
      | function declared => exact .singleton_shared (.tool (known _ mem_cons_self) declared)
      | webSearch handed declared =>
        exact .singleton_owned (symbol_mem_owners.2 handed.kept)
          (mt symbol_mem_owners.1 handed.free)
          (webSearchDeclaration_key declared ▸ .webSearch _)
    exact fresh.append distinct (owners_subset grown (List.Subset.refl _))
      (owners_subset grown' (List.Subset.refl _))
      (ih fun _ listed => known _ (mem_cons_of_mem _ listed))

def Stocked (context : Context) (node : Node) : Prop :=
  ∀ tool ∈ toolsOf node, ∃ known, context.tools.find? (·.name = tool.name) = some known

theorem Stocked.toolNamed_mem (stocked : Stocked context node) (used : tool ∈ toolsOf node) :
    toolNamed context tool ∈ context.tools := by
  obtain ⟨known, found⟩ := stocked tool used
  unfold toolNamed
  rw [found]
  exact mem_of_find?_eq_some found

theorem stocked_of_start {graph : Graph} {settings : Settings}
    (started : start graph settings = .ok (context, draft)) (listed : node ∈ graph.nodes) :
    Stocked context node := by
  obtain ⟨_, collecting, _⟩ := start_eq_ok started
  intro tool used
  obtain ⟨known, found, _⟩ := (collected_of_collectTools collecting).found (node, tool)
    (mem_flatMap.2 ⟨node, listed, mem_map_of_mem used⟩)
  exact ⟨known, found⟩

/-- **What a node declares is fresh.** -/
theorem Asks.fresh (asks : Asks context taken later node.id node.config emission)
    (grown : taken ⊆ later) (distinct : (context.tools.map FunctionTool.name).Nodup)
    (stocked : Stocked context node) (new : node.kind ≠ .finish → node.id ∉ entered) :
    Fresh context (owners taken entered) (owners later (recorded node entered))
      emission.declarations := by
  have used : ∀ tool ∈ toolsOf node, toolNamed context tool ∈ context.tools := fun _ =>
    stocked.toolNamed_mem
  have ids := subset_recorded node entered
  -- a node that owns a declaration is no end, so it is recorded now and was not before
  have owned {declaration : Module.Declaration} (inner : node.kind ≠ .finish)
      (mine : (Owner.node node.id).Has declaration.key) {before : List Text} :
      Fresh context (owners before entered) (owners later (recorded node entered)) [declaration] :=
    .singleton_owned (node_mem_owners.2 (by simp [recorded, inner]))
      (mt node_mem_owners.1 (new inner)) mine
  unfold toolsOf at used
  unfold Node.kind at owned
  generalize node.config = config at asks used owned
  cases asks with
  | nothing other none => exact none ▸ .nil
  | fileSearch declared => exact declared ▸ .singleton_shared .client
  | functionTool made declared =>
    exact declared ▸ .singleton_shared (.tool (used _ (mem_singleton.2 rfl)) made)
  | approval handed declared => exact declared ▸ owned nofun (.approval node.id)
  | @guardrail config bundle entries source emission handed laid declared =>
    have wider := owners_subset grown ids
    rw [declared]
    have bundled : Fresh context (owners taken entered) (owners later (recorded node entered))
        [bundleDeclaration bundle source] :=
      .singleton_owned (symbol_mem_owners.2 handed.kept)
        (mt symbol_mem_owners.1 handed.free) (.bundle _)
    exact (Fresh.singleton_shared .client).append distinct (List.Subset.refl _) wider
      (bundled.append distinct wider (List.Subset.refl _) (.singleton_shared .helpers))
  | agent handed served rest answers made declared =>
    have tools := served.fresh distinct
      (fun tool listed => used tool (mem_filterMap.2 ⟨_, listed, rfl⟩)) entered
    rw [declared]
    refine (tools.widen (owners_subset (subset_append_left _ _) (List.Subset.refl _))
      (List.Subset.refl _)).append distinct ?_ (owners_subset rest ids)
      (owned nofun (.agent node.id))
    exact owners_subset (List.Subset.trans (subset_append_left _ _) served.grown)
      (List.Subset.refl _)

/-! ## Adding declarations to the module -/

theorem declare_run {declaration : Module.Declaration}
    (agree : ∀ known ∈ draft.module.declarations, known.key = declaration.key →
      known = declaration) :
    ∃ later, declare declaration draft = (.ok (), later) ∧ later.symbols = draft.symbols ∧
      later.module.declarations ⊆ draft.module.declarations ++ [declaration] := by
  unfold declare Module.Builder.declare
  rw [Stoppable.get_bind_run]
  cases found : draft.module.declarations.find? (·.key = declaration.key) with
  | none => exact ⟨_, rfl, rfl, List.Subset.refl _⟩
  | some known =>
    have same := agree known (mem_of_find?_eq_some found) (by simpa using find?_some found)
    simp only [same, if_true]
    exact ⟨_, rfl, rfl, subset_append_left _ _⟩

theorem declareAll_run {added : List Module.Declaration}
    (agree : ∀ one ∈ draft.module.declarations ++ added,
      ∀ other ∈ draft.module.declarations ++ added, one.key = other.key → one = other) :
    ∃ later, (added.forM declare : Build Unit) draft = (.ok (), later) ∧
      later.symbols = draft.symbols ∧
      later.module.declarations ⊆ draft.module.declarations ++ added := by
  induction added generalizing draft with
  | nil => exact ⟨draft, rfl, rfl, by simp⟩
  | cons declaration rest ih =>
    obtain ⟨middle, done, symbols, kept⟩ := declare_run fun known listed =>
      agree known (mem_append_left _ listed) declaration (by simp)
    have within : middle.module.declarations ++ rest ⊆
        draft.module.declarations ++ declaration :: rest := by
      refine append_subset.2 ⟨List.Subset.trans kept ?_, ?_⟩
      · exact append_subset.2 ⟨subset_append_left _ _, by simp⟩
      · exact fun _ listed => by simp [listed]
    obtain ⟨later, more, symbols', kept'⟩ := ih fun one listed other listed' =>
      agree one (within listed) other (within listed')
    refine ⟨later, ?_, symbols'.trans symbols, List.Subset.trans kept' within⟩
    show (declare declaration >>= fun _ => rest.forM declare) draft = _
    rw [Stoppable.bind_run, done]
    exact more

theorem declarations_addImport (builder : Module.Builder) (wanted : Module.Import) :
    (builder.addImport wanted).declarations = builder.declarations := by
  unfold Module.Builder.addImport
  split <;> rfl

theorem importAll_run (imports : List Module.Import) (draft : Draft) :
    ∃ later, (imports.forM addImport : Build Unit) draft = (.ok (), later) ∧
      later.symbols = draft.symbols ∧
      later.module.declarations = draft.module.declarations := by
  induction imports generalizing draft with
  | nil => exact ⟨draft, rfl, rfl, rfl⟩
  | cons wanted rest ih =>
    obtain ⟨later, more, symbols, same⟩ :=
      ih { draft with module := draft.module.addImport wanted }
    exact ⟨later, more, symbols, same.trans (declarations_addImport _ _)⟩

theorem absorb_run (agree : ∀ one ∈ draft.module.declarations ++ emission.declarations,
      ∀ other ∈ draft.module.declarations ++ emission.declarations, one.key = other.key →
        one = other) :
    ∃ later, absorb emission draft = (.ok (), later) ∧ later.symbols = draft.symbols ∧
      later.module.declarations ⊆ draft.module.declarations ++ emission.declarations := by
  obtain ⟨middle, done, symbols, same⟩ := importAll_run emission.imports draft
  rw [← same] at agree
  obtain ⟨later, more, symbols', kept⟩ := declareAll_run agree
  refine ⟨later, ?_, symbols'.trans symbols, same ▸ kept⟩
  unfold absorb
  rw [Stoppable.bind_run, done]
  exact more

/-- The declarations of a draft are fresh, given the nodes that were entered. -/
def Draft.Clear (context : Context) (draft : Draft) (entered : List Text) : Prop :=
  Fresh context [] (owners draft.symbols.taken entered) draft.module.declarations

/-- **Emitting a node keeps the draft clear of clashes.**  It stops for what the workflow says at
most. -/
theorem notingEmitter_clear (distinct : (context.tools.map FunctionTool.name).Nodup)
    (stocked : Stocked context node) (path : Path) (new : node.kind ≠ .finish → node.id ∉ entered)
    (clear : draft.Clear context entered) :
    (notingEmitter context node path draft).2.Clear context (recorded node entered) ∧
      ∀ found, (notingEmitter context node path draft).1 = .error found →
        found.isInternal = false := by
  have ids := subset_recorded node entered
  obtain ⟨noted, run, symbols, module⟩ : ∃ noted, notingEmitter context node path draft =
      emitNode context node path noted ∧ noted.symbols = draft.symbols ∧
        noted.module = draft.module := ⟨_, rfl, rfl, rfl⟩
  have step := emission_asks context node path noted.symbols.taken noted rfl
  unfold Draft.Clear at clear ⊢
  rw [← symbols, ← module] at clear
  rw [run, emitNode, Stoppable.bind_run]
  rcases result : emission context node path noted with ⟨found | emission, middle⟩ <;>
    rw [result] at step
  · refine ⟨?_, fun other same => step.external other same⟩
    rw [step.keeps]
    exact clear.widen (List.Subset.refl _) (owners_subset step.grows ids)
  · have fresh := (step.returns emission rfl).1.fresh step.grows distinct stocked new
    have all := clear.append distinct (nil_subset _) (owners_subset step.grows ids) fresh
    rw [← step.keeps] at all
    obtain ⟨later, done, symbols', kept⟩ := absorb_run all.agree
    have absorbed : (absorb emission >>= fun _ => pure emission)
      middle = (.ok emission, later) := by
      rw [Stoppable.bind_run, done]
      rfl
    dsimp only
    rw [absorbed]
    refine ⟨?_, nofun⟩
    rw [symbols']
    exact all.subset kept

end Emit

end AgentFlow
