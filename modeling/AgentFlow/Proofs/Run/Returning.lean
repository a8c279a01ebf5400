import AgentFlow.Proofs.Linear.Coverage

/-!
# A body returns, and has nothing after a return

Whichever way control takes through a body, it goes round a loop forever or comes to a return.  The
arms of a branch inside a loop may end without one, so a route returns only where no loop is open;
that is what the induction over routes carries.
-/

namespace AgentFlow

open List

/-- Whether nothing may stand after a statement: it returns, or it goes different ways. -/
def Statement.isFinal : Statement → Bool
  | .ret _ => true
  | .branch _ _ => true
  | .guard _ _ _ _ => true
  | _ => false

/-- The blocks that a statement is made of.  Those of an attempt are left out: they are emitted for
one node, and no walk puts them together. -/
def Statement.parts : Statement → List Block
  | .block body => [body]
  | .branch arms orelse => arms.map Prod.snd ++ orelse.toList
  | .loop _ body => [body]
  | .guard _ continuation fallback _ => [continuation, fallback]
  | _ => []

namespace Run

open Workflow Emit Linear

/-! ## Control flow -/

/-- One move of control: from what is to be done to what is left to do.  Conditions may have any
value, an attempt comes to its end or breaks off into its handler, and nothing follows a return. -/
inductive Proceeds : Block → Block → Prop
  | raw {lines : List Text} {rest : Block} : Proceeds (.raw lines :: rest) rest
  | block {body rest : Block} : Proceeds (.block body :: rest) (body ++ rest)
  | arm {arms : List (Text × Block)} {orelse : Option Block} {rest : Block} {arm : Text × Block}
      (listed : arm ∈ arms) : Proceeds (.branch arms orelse :: rest) (arm.2 ++ rest)
  | orelse {arms : List (Text × Block)} {orelse : Option Block} {rest : Block} :
      Proceeds (.branch arms orelse :: rest) (orelse.getD [] ++ rest)
  | again {condition : Text} {body rest : Block} :
      Proceeds (.loop condition body :: rest) (body ++ .loop condition body :: rest)
  | exit {condition : Text} {body rest : Block} : Proceeds (.loop condition body :: rest) rest
  | continuation {condition : Text} {continuation fallback rest : Block} {continueWhen : Bool} :
      Proceeds (.guard condition continuation fallback continueWhen :: rest) (continuation ++ rest)
  | fallback {condition : Text} {continuation fallback rest : Block} {continueWhen : Bool} :
      Proceeds (.guard condition continuation fallback continueWhen :: rest) (fallback ++ rest)
  | completes {body handler rest : Block} {name : Text} :
      Proceeds (.attempt body name handler :: rest) (body ++ rest)
  | breaks {body handler rest : Block} {name : Text} :
      Proceeds (.attempt body name handler :: rest) (handler ++ rest)

/-- Control comes from one point to another. -/
abbrev Arrives : Block → Block → Prop := Relation.ReflTransGen Proceeds

/-- Control is at a point from which it does not move on. -/
def AtRest (here : Block) : Prop := ∀ there, ¬ Proceeds here there

theorem eq_of_atRest {here : Block} (rest : AtRest here) :
    here = [] ∨ ∃ value later, here = .ret value :: later := by
  match here, rest with
  | [], _ => exact .inl rfl
  | .ret value :: later, _ => exact .inr ⟨value, later, rfl⟩
  | .raw _ :: _, rest => exact absurd .raw (rest _)
  | .block _ :: _, rest => exact absurd .block (rest _)
  | .branch _ _ :: _, rest => exact absurd .orelse (rest _)
  | .loop _ _ :: _, rest => exact absurd .exit (rest _)
  | .guard _ _ _ _ :: _, rest => exact absurd .fallback (rest _)
  | .attempt _ _ _ :: _, rest => exact absurd .completes (rest _)

/-! ## Statements that return -/

/-- Control comes to a return before it comes to the end of statements. -/
inductive Closed : Block → Prop
  | ret {value : Text} {rest : Block} : Closed (.ret value :: rest)
  | later {statement : Statement} {rest : Block} (closed : Closed rest) :
      Closed (statement :: rest)
  | block {body rest : Block} (closed : Closed body) : Closed (.block body :: rest)
  | branch {arms : List (Text × Block)} {orelse : Option Block} {rest : Block}
      (inside : ∀ arm ∈ arms, Closed arm.2) (otherwise : Closed (orelse.getD [])) :
      Closed (.branch arms orelse :: rest)
  | guard {condition : Text} {continuation fallback rest : Block} {continueWhen : Bool}
      (inside : Closed continuation) (otherwise : Closed fallback) :
      Closed (.guard condition continuation fallback continueWhen :: rest)

namespace Closed

variable {first second here there : Block}

theorem append_left (closed : Closed first) (second : Block) : Closed (first ++ second) := by
  induction closed with
  | ret => exact .ret
  | later _ ih => exact .later ih
  | block closed => exact .block closed
  | branch inside otherwise => exact .branch inside otherwise
  | guard inside otherwise => exact .guard inside otherwise

theorem append_right (first : Block) (closed : Closed second) : Closed (first ++ second) := by
  induction first with
  | nil => exact closed
  | cons statement rest ih => exact .later ih

/-- One move of control keeps a return ahead. -/
theorem proceeds (closed : Closed here) (proceeds : Proceeds here there) : Closed there := by
  cases closed with
  | ret => cases proceeds
  | later closed =>
    cases proceeds with
    | again => exact .append_right _ (.later closed)
    | raw | exit => exact closed
    | _ => exact .append_right _ closed
  | block closed =>
    cases proceeds with
    | block => exact closed.append_left _
  | branch inside otherwise =>
    cases proceeds with
    | arm listed => exact (inside _ listed).append_left _
    | orelse => exact otherwise.append_left _
  | guard inside otherwise =>
    cases proceeds with
    | continuation => exact inside.append_left _
    | fallback => exact otherwise.append_left _

/-- However far control comes, a return is ahead. -/
theorem arrives (closed : Closed here) (arrives : Arrives here there) : Closed there := by
  induction arrives with
  | refl => exact closed
  | tail _ moved ih => exact ih.proceeds moved

/-- Where control rests, it has come to a return. -/
theorem returns (closed : Closed here) (rest : AtRest here) :
    ∃ value later, here = .ret value :: later := by
  rcases eq_of_atRest rest with rfl | returned
  · cases closed
  · exact returned

end Closed

/-! ## Statements with nothing after a return -/

/-- Nothing stands after a return, a branch or a guard. -/
def Tidy (block : Block) : Prop :=
  ∀ before statement after, block = before ++ statement :: after → statement.isFinal = true →
    after = []

/-- A block stands in another one, at any depth. -/
inductive Within : Block → Block → Prop
  | self (block : Block) : Within block block
  | inside {outer part inner} {statement : Statement} (listed : statement ∈ outer)
      (isPart : part ∈ statement.parts) (deeper : Within part inner) : Within outer inner

/-- All blocks that stand in a block are tidy. -/
def Neat (block : Block) : Prop := ∀ inner, Within block inner → Tidy inner

namespace Neat

variable {statement : Statement} {rest : Block}

theorem nil : Neat [] := by
  intro inner within
  cases within with
  | self => exact fun before statement after same => by simp at same
  | inside listed => cases listed

/-- A statement at the end may be any, if its blocks are neat. -/
theorem last (inside : ∀ part ∈ statement.parts, Neat part) : Neat [statement] := by
  intro inner within
  cases within with
  | self =>
    intro before found after same _
    cases before with
    | nil => exact (List.cons.inj same).2.symm
    | cons first others => simp at same
  | inside listed isPart deeper =>
    obtain rfl := mem_singleton.1 listed
    exact inside _ isPart _ deeper

theorem cons (goes : statement.isFinal = false) (inside : ∀ part ∈ statement.parts, Neat part)
    (neat : Neat rest) : Neat (statement :: rest) := by
  intro inner within
  cases within with
  | self =>
    intro before found after same final
    cases before with
    | nil =>
      obtain ⟨rfl, -⟩ := List.cons.inj same
      simp [goes] at final
    | cons first others =>
      exact neat rest (.self rest) others found after (List.cons.inj same).2 final
  | inside listed isPart deeper =>
    rcases mem_cons.1 listed with rfl | later
    · exact inside _ isPart _ deeper
    · exact neat inner (.inside later isPart deeper)

theorem plain_append {statements : List Statement} (plain : Plain statements) (neat : Neat rest) :
    Neat (statements ++ rest) := by
  induction statements with
  | nil => exact neat
  | cons statement others ih =>
    obtain ⟨isPlain, remaining⟩ := plain_cons.1 plain
    cases statement with
    | raw _ | attempt _ _ _ => exact (ih remaining).cons rfl fun part none => by cases none
    | _ => cases isPlain

end Neat

/-! ## Calls -/

variable {call : Call} {blocks : List Block}

theorem neat_assemble (fits : call.emission.Fits call.node.config)
    (neat : ∀ block ∈ blocks, Neat block) : Neat (call.assemble blocks) := by
  obtain ⟨first, last⟩ := ends_of_all .nil neat
  unfold Call.assemble
  cases config : call.node.config with
  | finish ending =>
    rw [config] at fits
    obtain ⟨before, value, shape, plain⟩ := fits
    rw [shape, append_nil]
    exact .plain_append plain (.last fun part none => by cases none)
  | branch cases =>
    rw [config] at fits
    refine .plain_append fits.1 (.last fun part listed => ?_)
    rcases mem_append.1 listed with arm | orelse
    · obtain ⟨arm, zipped, rfl⟩ := mem_map.1 arm
      exact neat _ (of_mem_zip zipped).2
    · exact neat _ (mem_of_getLast? (Option.mem_toList.1 orelse))
  | loop condition =>
    rw [config] at fits
    refine .plain_append (fits.1 ▸ plain_nil) (.cons rfl (fun part listed => ?_) last)
    exact mem_singleton.1 listed ▸ first
  | approval message =>
    rw [config] at fits
    obtain ⟨plain, gate, gated, -⟩ := fits
    simp only [gated]
    refine .plain_append plain (.last fun part listed => ?_)
    rcases mem_pair.1 listed with rfl | rfl
    · exact first
    · exact last
  | guardrail guardrail =>
    rw [config] at fits
    obtain ⟨plain, gate, gated, -⟩ := fits
    simp only [gated]
    refine .plain_append plain (.last fun part listed => ?_)
    rcases mem_pair.1 listed with rfl | rfl
    · exact first
    · exact .last fun part none => by cases none
  | _ =>
    rw [config] at fits
    simp only [fits.2]
    exact .plain_append fits.1 first

/-- Outside all loops, a call puts together a block that returns from blocks that return where no
loop is open. -/
theorem closed_assemble {graph : Graph} (fits : call.emission.Fits call.node.config)
    (outside : call.path.openLoops = [])
    (closed : List.Forall₂ (fun way block => way.path.openLoops = [] → Closed block)
      (waysOn graph call) blocks) : Closed (call.assemble blocks) := by
  have all (other : ∀ condition, call.node.config ≠ .loop condition) :
      ∀ block ∈ blocks, Closed block := by
    intro block listed
    obtain ⟨way, member, holds⟩ := exists_of_mem_right closed listed
    rcases openLoops_along member with same | ⟨⟨_, loop⟩, _⟩
    · exact holds (same.trans outside)
    · exact absurd loop (other _)
  have ends (other : ∀ condition, call.node.config ≠ .loop condition)
      (some : waysOn graph call ≠ []) :
      Closed (blocks.headD []) ∧ Closed (blocks.getLastD []) := by
    have filled : blocks ≠ [] := by
      rintro rfl
      exact some (forall₂_nil_right_iff.1 closed)
    rw [headD_eq_head?_getD, head?_eq_some_head filled, getLastD_eq_getLast?,
      getLast?_eq_some_getLast filled]
    exact ⟨all other _ (head_mem filled), all other _ (getLast_mem filled)⟩
  unfold Call.assemble
  cases config : call.node.config with
  | finish ending =>
    rw [config] at fits
    obtain ⟨before, value, shape, -⟩ := fits
    rw [shape, append_nil]
    exact .append_right _ .ret
  | loop condition =>
    -- The body of the loop may go back to it; what follows the loop returns.
    simp only [waysOn, config] at closed
    obtain _ | ⟨-, _ | ⟨exit, ⟨⟩⟩⟩ := closed
    exact .append_right _ (.later (exit outside))
  | branch cases =>
    obtain ⟨-, last⟩ := ends (by simp [config]) (by simp [waysOn, config])
    rw [getLastD_eq_getLast?] at last
    refine .append_right _ (.branch (fun arm zipped => ?_) last)
    exact all (by simp [config]) _ (of_mem_zip zipped).2
  | approval message =>
    rw [config] at fits
    obtain ⟨-, gate, gated, -⟩ := fits
    obtain ⟨first, last⟩ := ends (by simp [config]) (by simp [waysOn, config, gated])
    simp only [gated]
    exact .append_right _ (.guard first last)
  | guardrail guardrail =>
    rw [config] at fits
    obtain ⟨-, gate, gated, -⟩ := fits
    simp only [gated]
    have closed := ends (by simp [config]) (by simp [waysOn, config])
    exact .append_right _ (.guard closed.1 .ret)
  | _ =>
    rw [config] at fits
    simp only [fits.2]
    exact .append_right _ (ends (by simp [config]) (by simp [waysOn, config])).1

/-! ## Routes -/

variable {graph : Graph} {arrival : Option Arrival} {path : Path} {route : Route}

theorem neat_block (follows : Follows graph arrival path route) : Neat route.block := by
  induction follows with
  | stop path => exact .last fun part none => by cases none
  | back arrival path => exact .nil
  | visit arrival call ways _ _ fits _ onward =>
    rw [Route.block_visit]
    refine neat_assemble fits fun block listed => ?_
    obtain ⟨way, member, rfl⟩ := mem_map.1 listed
    obtain ⟨_, _, _, neat⟩ := exists_of_mem_right onward member
    exact neat

/-- **Outside all loops, the statements of a route return.** -/
theorem closed_block (follows : Follows graph arrival path route) (outside : path.openLoops = []) :
    Closed route.block := by
  induction follows with
  | stop path => exact .ret
  | back arrival path innermost => simp [outside] at innermost
  | visit arrival call ways _ _ fits _ onward =>
    rw [Route.block_visit]
    have closed : List.Forall₂ (fun way route => way.path.openLoops = [] → Closed route.block)
        (waysOn graph call) ways := onward.imp fun way route ⟨_, closed⟩ => closed
    exact closed_assemble fits outside (forall₂_map_right_iff.2 closed)

/-- **Every way through a body goes on forever or comes to a return, and in no block of a body
anything stands after a return, a branch or a guard.**  The graph need not have passed the check. -/
theorem body_returns_with_nothing_after {context : Context} {draft last : Draft} {block : Block}
    (walked : body context draft = (.ok block, last)) :
    (∀ here, Arrives block here → AtRest here → ∃ value later, here = .ret value :: later) ∧
      ∀ inner, Within block inner → Tidy inner := by
  obtain ⟨route, surveyed, rfl⟩ := linearize_eq_ok.1 walked
  obtain ⟨follows, -⟩ := survey_leaves (notingEmitter_fits context) surveyed
  refine ⟨fun here arrives rest => ?_, neat_block follows⟩
  exact ((closed_block follows rfl).arrives arrives).returns rest

/-- The body of a loop that may go on forever: it goes round, or it returns. -/
theorem polling_returns_with_nothing_after :
    ∃ block last, validate pollingContext.graph = .ok () ∧
      body pollingContext {} = (.ok block, last) ∧
      (∀ here, Arrives block here → AtRest here → ∃ value later, here = .ret value :: later) ∧
      ∀ inner, Within block inner → Tidy inner := by
  obtain ⟨block, last, walked⟩ := polling_walked
  exact ⟨block, last, polling_valid, walked, body_returns_with_nothing_after walked⟩

end Run

end AgentFlow
