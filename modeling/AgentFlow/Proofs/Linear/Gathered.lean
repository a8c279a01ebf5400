import AgentFlow.Proofs.Emit.Declaring
import AgentFlow.Proofs.Linear.Coverage

/-!
# What a walk has gathered

While a graph is walked, the module collects what the nodes on the way ask for.  Nothing that a node
asks for is lost, and nothing is collected that no node has asked for.
-/

namespace AgentFlow

open List Workflow Emit Stoppable

/-! ## Stocks -/

theorem eraseDups_concat {α : Type} [DecidableEq α] (items : List α) (item : α) :
    (items ++ [item]).eraseDups =
      if item ∈ items then items.eraseDups else items.eraseDups ++ [item] := by
  rw [eraseDups_append]
  by_cases known : item ∈ items <;> simp [List.removeAll, known, eraseDups_cons]

namespace Linear

variable {graph : Graph}

theorem Follows.exists_call {route : Route} (valid : validate graph = .ok ())
    (follows : Follows graph (some (.start graph.entryId)) {} route) {node : Node}
    (listed : node ∈ graph.nodes) : ∃ call ∈ route.calls, call.node = node := by
  have checked := checked_of_validate valid
  have known : graph.node? node.id = some node := Graph.node?_eq_some_iff.2 ⟨listed, rfl⟩
  obtain ⟨call, called, same⟩ := follows.visited_of_reaches checked
    (checked.reached node.id (Graph.mem_nodeIds_iff.2 ⟨node, known⟩))
  have found := (follows.known_of_call called).1
  rw [same, known] at found
  exact ⟨call, called, (Option.some.inj found).symm⟩

end Linear

/-! ## Adding to the module -/

namespace Emit

variable {draft last : Draft} {emission : Emission} {declared : List Module.Declaration}
  {imported : List Module.Import}

/-- A module holds the declarations and imports that were asked for, in the order in which they were
asked for first. -/
structure Holds (module : Module.Builder) (declared : List Module.Declaration)
    (imported : List Module.Import) : Prop where
  declarations : module.declarations = declared.eraseDups
  imports : module.imports = imported.eraseDups

theorem declare_holds {declaration : Module.Declaration}
    (holds : Holds draft.module declared imported)
    (done : declare declaration draft = (.ok (), last)) :
    Holds last.module (declared ++ [declaration]) imported := by
  unfold declare Module.Builder.declare at done
  rw [get_bind_run] at done
  have among : declaration ∈ declared ↔ declaration ∈ draft.module.declarations := by
    rw [holds.declarations, mem_eraseDups]
  cases found : draft.module.declarations.find? (·.key = declaration.key) with
  | none =>
    have absent : declaration ∉ declared := fun listed => by
      simpa using find?_eq_none.1 found declaration (among.1 listed)
    rw [found] at done
    cases done
    refine ⟨?_, holds.imports⟩
    rw [eraseDups_concat, if_neg absent, ← holds.declarations]
  | some other =>
    rw [found] at done
    dsimp only at done
    by_cases same : other = declaration
    · have listed : declaration ∈ declared :=
        among.2 (same ▸ mem_of_find?_eq_some found)
      rw [if_pos same] at done
      cases done
      refine ⟨?_, holds.imports⟩
      rw [eraseDups_concat, if_pos listed, holds.declarations]
    · rw [if_neg same] at done
      cases done

theorem declareAll_holds {added : List Module.Declaration} :
    ∀ {draft : Draft} {declared : List Module.Declaration},
      Holds draft.module declared imported →
      (added.forM declare : Build Unit) draft = (.ok (), last) →
        Holds last.module (declared ++ added) imported := by
  induction added with
  | nil =>
    intro draft declared holds done
    cases done
    rwa [append_nil]
  | cons declaration rest ih =>
    intro draft declared holds done
    obtain ⟨_, middle, first, others⟩ := bind_eq_ok.1 done
    rw [← singleton_append, ← append_assoc]
    exact ih (declare_holds holds first) others

theorem addImport_holds {module : Module.Builder} (holds : Holds module declared imported)
    (wanted : Module.Import) :
    Holds (module.addImport wanted) declared (imported ++ [wanted]) := by
  have among : wanted ∈ imported ↔ wanted ∈ module.imports := by
    rw [holds.imports, mem_eraseDups]
  unfold Module.Builder.addImport
  split
  · next there =>
      refine ⟨holds.declarations, ?_⟩
      rw [eraseDups_concat, if_pos (among.2 there), holds.imports]
  · next absent =>
      refine ⟨holds.declarations, ?_⟩
      rw [eraseDups_concat, if_neg (mt among.1 absent), ← holds.imports]

theorem importAll_holds (imports : List Module.Import) (draft : Draft)
    (holds : Holds draft.module declared imported) :
    ∃ later, (imports.forM addImport : Build Unit) draft = (.ok (), later) ∧
      Holds later.module declared (imported ++ imports) := by
  induction imports generalizing draft imported with
  | nil => exact ⟨draft, rfl, by rwa [append_nil]⟩
  | cons wanted rest ih =>
    rw [← singleton_append, ← append_assoc]
    exact ih { draft with module := draft.module.addImport wanted } (addImport_holds holds wanted)

theorem notingEmitter_holds {context : Context} {node : Node} {path : Path}
    (holds : Holds draft.module declared imported)
    (done : notingEmitter context node path draft = (.ok emission, last)) :
    Holds last.module (declared ++ emission.declarations) (imported ++ emission.imports) := by
  obtain ⟨noted, run, module⟩ : ∃ noted, notingEmitter context node path draft =
      emitNode context node path noted ∧ noted.module = draft.module := ⟨_, rfl, rfl⟩
  rw [run] at done
  obtain ⟨found, middle, emitted, absorbing⟩ := bind_eq_ok.1 done
  obtain ⟨_, _, absorbed, returned⟩ := bind_eq_ok.1 absorbing
  cases returned
  -- the emitter itself only hands out names
  have kept : middle.module = draft.module := by
    have same := (emission_asks context node path _ noted rfl).keeps
    rw [emitted] at same
    exact same.trans module
  rw [← kept] at holds
  obtain ⟨_, later, importing, declaring⟩ := bind_eq_ok.1 absorbed
  obtain ⟨_, imports, more⟩ := importAll_holds emission.imports middle holds
  obtain ⟨_, rfl⟩ := Prod.mk.inj (imports.symm.trans importing)
  exact declareAll_holds more declaring

/-- **After calls the module holds what they have asked for.** -/
theorem holds_of_along {context : Context} {calls : List Linear.Call}
    (along : Linear.Along (notingEmitter context) draft calls last)
    (holds : Holds draft.module declared imported) :
    Holds last.module (declared ++ calls.flatMap fun call => call.emission.declarations)
      (imported ++ calls.flatMap fun call => call.emission.imports) := by
  induction along generalizing declared imported with
  | nil => simpa using holds
  | cons emitted _ ih =>
    rw [flatMap_cons, flatMap_cons, ← append_assoc, ← append_assoc]
    exact ih (notingEmitter_holds holds emitted)

end Emit

/-- **The module of a body holds what the calls on its route have asked for.** -/
theorem exists_route_of_body {graph : Graph} {settings : Settings} {context : Context}
    {draft last : Draft} {block : Block} (started : start graph settings = .ok (context, draft))
    (walked : body context draft = (.ok block, last)) :
    ∃ route, Linear.survey graph (notingEmitter context) draft = (.ok route, last) ∧
      Linear.Follows graph (some (.start graph.entryId)) {} route ∧ route.block = block ∧
      Holds last.module (route.calls.flatMap fun call => call.emission.declarations)
        (route.calls.flatMap fun call => call.emission.imports) := by
  obtain ⟨rfl, collecting, empty⟩ := start_eq_ok started
  obtain ⟨route, surveyed, same⟩ := Linear.linearize_eq_ok.1 walked
  have holds : Holds draft.module [] [] := empty ▸ ⟨rfl, rfl⟩
  obtain ⟨follows, _, along⟩ := Linear.survey_leaves (Linear.notingEmitter_fits context) surveyed
  exact ⟨route, surveyed, follows, same, holds_of_along along holds⟩

end AgentFlow
