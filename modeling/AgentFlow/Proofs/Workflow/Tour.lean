import AgentFlow.Proofs.Workflow.Searches
import Mathlib.Data.List.Chain
import Mathlib.Data.List.Destutter

/-!
# The search for cycles, step by step

The depth-first search as a machine without calls: a stack holds the nodes being searched, each with
those after it that are still to be looked at.  A node is white until it is entered, grey while it
is on the stack, and black afterwards.  As long as no cycle is found, all ways from a black node
come to an end.
-/

namespace AgentFlow.Workflow.Graph

open List Relation
open Function (update)

variable {graph : Graph} {id : Text}

/-! ## The machine -/

/-- How far the search has come with a node. -/
inductive Colour where
  | white
  | grey
  | black
deriving DecidableEq

/-- The nodes to start from, the nodes being searched with what is left to look at after them, the
innermost one first, the path to the innermost one, the colours, and the cycles found. -/
structure Tour where
  roots : List Text
  stack : List (Text × List Text)
  path : List Text
  colour : Text → Colour
  cycles : List (List Text)

/-- What a step comes to.  A tour is lost if a grey node is not on its path. -/
inductive Turn where
  | on (tour : Tour)
  | done
  | lost (id : Text)

namespace Tour

def start (graph : Graph) : Tour := ⟨graph.nodeIds, [], [], fun _ => .white, []⟩

def enter (graph : Graph) (tour : Tour) (id : Text) : Tour :=
  { tour with
    stack := (id, graph.onward id) :: tour.stack
    path := tour.path ++ [id]
    colour := update tour.colour id .grey }

/-- A step looks at one node: the next one to start from, or the next one after the innermost node.
Where none is left after the innermost node, it is left. -/
def step (graph : Graph) (tour : Tour) : Turn :=
  match tour.stack with
  | [] =>
    match tour.roots with
    | [] => .done
    | root :: rest =>
      let tour := { tour with roots := rest }
      if tour.colour root = .white then .on (tour.enter graph root) else .on tour
  | (id, []) :: below =>
    .on { tour with
      stack := below
      path := tour.path.dropLast
      colour := update tour.colour id .black }
  | (id, child :: rest) :: below =>
    let tour := { tour with stack := (id, rest) :: below }
    match tour.colour child with
    | .white => .on (tour.enter graph child)
    | .black => .on tour
    | .grey =>
      match tour.path.idxOf? child with
      | some place => .on { tour with cycles := tour.cycles ++ [tour.path.drop place ++ [child]] }
      | none => .lost child

/-- One tour comes after another. -/
def Next (graph : Graph) (tour next : Tour) : Prop := tour.step graph = .on next

end Tour

/-- What the search does with a node after the last one of a path. -/
def visit (graph : Graph) (fuel : Nat) (here : List Text) (search : Search) (child : Text) :
    Search :=
  if child ∈ here then { search with cycles := search.cycles ++ [cycleAt here child] }
  else if child ∈ search.entered then search
  else graph.searchFrom fuel here search child

theorem searchFrom_succ (fuel : Nat) (path : List Text) (search : Search) :
    graph.searchFrom (fuel + 1) path search id =
      (graph.onward id).foldl (graph.visit fuel (path ++ [id]))
        { search with entered := search.entered ++ [id] } := rfl

/-! ## What a step keeps -/

/-- Different nodes with an edge from each to the next, none of them into a loop body, and one from
the last to the first. -/
def IsCycle (graph : Graph) (cycle : List Text) : Prop :=
  ∃ first rest, cycle = first :: rest ++ [first] ∧ (first :: rest).Nodup ∧
    cycle.IsChain graph.Continues

/-- All ways that go on from a node come to an end. -/
def Ends (graph : Graph) (id : Text) : Prop :=
  Acc (fun later earlier => later ∈ graph.onward earlier) id

/-- Colours only get darker, one shade at a time. -/
def Colour.Darkens (before after : Colour) : Prop :=
  before = after ∨ before = .white ∧ after = .grey ∨ before = .grey ∧ after = .black

/-- The path is the one of the stack and holds the grey nodes, it follows edges, and so do the
cycles. -/
structure Tour.Sound (graph : Graph) (tour : Tour) : Prop where
  path : tour.path = (tour.stack.map Prod.fst).reverse
  grey : ∀ id, tour.colour id = .grey ↔ id ∈ tour.path
  distinct : tour.path.Nodup
  linked : tour.path.IsChain graph.Continues
  onward : ∀ frame ∈ tour.stack, frame.2 ⊆ graph.onward frame.1
  started : ∀ id ∈ graph.nodeIds, id ∈ tour.roots ∨ tour.colour id ≠ .white
  cycles : ∀ cycle ∈ tour.cycles, graph.IsCycle cycle

namespace Tour

variable {tour next : Tour} {child : Text} {rest : List Text}
  {below : List (Text × List Text)}

theorem sound_start (graph : Graph) : (start graph).Sound graph :=
  ⟨rfl, by simp [start], .nil, .nil, forall_mem_nil _, fun _ => .inl, forall_mem_nil _⟩

variable (sound : tour.Sound graph)
include sound

theorem Sound.enter (white : tour.colour id = .white)
    (joined : ∀ last ∈ tour.path.getLast?, graph.Continues last id) :
    (tour.enter graph id).Sound graph where
  path := by simp [Tour.enter, sound.path]
  grey other := by
    by_cases same : other = id
    · simp [Tour.enter, same]
    · simp [Tour.enter, same, sound.grey]
  distinct := by
    have away : id ∉ tour.path := fun member => by simp [(sound.grey id).2 member] at white
    exact nodup_append.2 ⟨sound.distinct, nodup_singleton id, by grind⟩
  linked := isChain_append.2 ⟨sound.linked, .singleton id, fun last final first same => by
    cases same
    exact joined last final⟩
  onward := forall_mem_cons.2 ⟨List.Subset.refl _, sound.onward⟩
  started other listed := (sound.started other listed).imp_right fun dark => by
    by_cases same : other = id
    · simp [Tour.enter, same]
    · simpa [Tour.enter, same] using dark
  cycles := sound.cycles

theorem Sound.leave (top : tour.stack = (id, []) :: below) :
    Sound graph { tour with
      stack := below
      path := tour.path.dropLast
      colour := update tour.colour id .black } := by
  have path := sound.path
  rw [top, map_cons, reverse_cons] at path
  have distinct := path ▸ sound.distinct
  have away : id ∉ (below.map Prod.fst).reverse := fun member =>
    (nodup_append.1 distinct).2.2 id member id mem_cons_self rfl
  have shorter : tour.path.dropLast = (below.map Prod.fst).reverse := by
    rw [path, dropLast_concat]
  refine ⟨shorter, fun other => ?_, ?_, ?_, ?_, fun other listed => ?_, sound.cycles⟩
  · rw [shorter]
    by_cases same : other = id
    · simpa [same] using away
    · simp [same, sound.grey, path]
  · exact sound.distinct.sublist (dropLast_sublist _)
  · exact sound.linked.prefix ( dropLast_prefix _)
  · exact fun frame member => sound.onward frame (top ▸ mem_cons_of_mem _ member)
  · refine (sound.started other listed).imp_right fun dark => ?_
    by_cases same : other = id
    · simp [same]
    · simpa [same] using dark

theorem Sound.look (top : tour.stack = (id, child :: rest) :: below) :
    Sound graph { tour with stack := (id, rest) :: below } where
  path := by rw [sound.path, top]; rfl
  grey := sound.grey
  distinct := sound.distinct
  linked := sound.linked
  onward := by
    obtain ⟨first, others⟩ := forall_mem_cons.1 (top ▸ sound.onward)
    exact forall_mem_cons.2 ⟨fun _ member => first (mem_cons_of_mem _ member), others⟩
  started := sound.started
  cycles := sound.cycles

theorem Sound.continues (top : tour.stack = (id, child :: rest) :: below) :
    ∀ last ∈ tour.path.getLast?, graph.Continues last child := by
  intro last final
  rw [sound.path, top, map_cons, reverse_cons, getLast?_concat] at final
  cases final
  exact (mem_onward_iff.1 (sound.onward _ (top ▸ mem_cons_self) mem_cons_self)).1

/-- The path from a grey node on, closed by an edge back to it. -/
theorem Sound.isCycle (joined : ∀ last ∈ tour.path.getLast?, graph.Continues last child)
    {place : Nat}
    (found : tour.path.idxOf? child = some place) :
    graph.IsCycle (tour.path.drop place ++ [child]) := by
  obtain ⟨inside, here, _⟩ := findIdx?_eq_some_iff_getElem.1 found
  have split : tour.path.drop place = child :: tour.path.drop (place + 1) := by
    rw [drop_eq_getElem_cons inside, beq_iff_eq.1 here]
  refine ⟨child, tour.path.drop (place + 1), by rw [split], ?_, ?_⟩
  · exact split ▸ sound.distinct.sublist (drop_sublist _ _)
  · refine isChain_append.2 ⟨sound.linked.suffix (drop_suffix _ _), .singleton child, ?_⟩
    intro last final first same
    cases same
    refine joined last ?_
    rwa [getLast?_drop, if_neg (by omega)] at final

theorem Sound.skip (first : tour.roots = id :: rest)
    (dark : tour.colour id ≠ .white) : Sound graph { tour with roots := rest } where
  __ := sound
  started other listed := by
    refine (sound.started other listed).elim (fun member => ?_) .inr
    rcases mem_cons.1 (first ▸ member) with rfl | later
    · exact .inr dark
    · exact .inl later

/-- A step from a sound tour comes to a sound one, unless the tour is over. -/
theorem Sound.step :
    (tour.stack = [] ∧ tour.roots = [] ∧ tour.step graph = .done) ∨
      ∃ next, tour.Next graph next ∧ next.Sound graph ∧
        ∀ id, (tour.colour id).Darkens (next.colour id) := by
  have kept : ∀ id, (tour.colour id).Darkens (tour.colour id) := fun id => .inl rfl
  have greyed {id : Text} (white : tour.colour id = .white) (other : Text) :
      (tour.colour other).Darkens (update tour.colour id .grey other) := by
    by_cases same : other = id
    · exact .inr (.inl ⟨same ▸ white, by simp [same]⟩)
    · exact .inl (by simp [same])
  obtain ⟨roots, _ | ⟨⟨id, _ | ⟨child, rest⟩⟩, below⟩, path, colour, cycles⟩ := tour
  · cases roots with
    | nil => exact .inl ⟨rfl, rfl, rfl⟩
    | cons root rest =>
      refine .inr ?_
      by_cases white : colour root = .white
      · cases sound.path
        have entered := sound.enter white nofun
        exact ⟨_, if_pos white, entered.skip rfl (by simp [Tour.enter]), greyed white⟩
      · exact ⟨_, if_neg white, sound.skip rfl white, kept⟩
  · refine .inr ⟨_, rfl, sound.leave rfl, fun other => ?_⟩
    by_cases same : other = id
    · have member : id ∈ path := by simp [show path = _ from sound.path]
      exact .inr (.inr ⟨same ▸ (sound.grey id).2 member, by simp [same]⟩)
    · exact .inl (by simp [same])
  · refine .inr ?_
    have joined := sound.continues rfl
    have looked := sound.look rfl
    unfold Next Tour.step
    dsimp only
    split
    · next white => exact ⟨_, rfl, looked.enter white joined, greyed white⟩
    · exact ⟨_, rfl, looked, kept⟩
    · next grey =>
        have member := (sound.grey child).1 grey
        obtain ⟨place, found⟩ := Option.isSome_iff_exists.1 (isSome_idxOf?.2 member)
        rw [found]
        refine ⟨_, rfl, { looked with cycles := ?_ }, kept⟩
        exact forall_mem_append.2 ⟨sound.cycles, forall_mem_singleton.2
          (sound.isCycle joined found)⟩

theorem Sound.after (stepped : tour.Next graph next) :
    next.Sound graph ∧ ∀ id, (tour.colour id).Darkens (next.colour id) := by
  rcases sound.step with ⟨_, _, done⟩ | ⟨_, stepped', later⟩
  · cases done.symm.trans stepped
  · cases stepped.symm.trans stepped'
    exact later

theorem Sound.black (done : tour.step graph = .done)
    (listed : id ∈ graph.nodeIds) : tour.colour id = .black := by
  rcases sound.step with ⟨empty, none, _⟩ | ⟨_, stepped, _⟩
  · have grey := sound.grey id
    have started := sound.started id listed
    rw [sound.path, empty] at grey
    rw [none] at started
    cases shade : tour.colour id <;> simp_all
  · cases done.symm.trans stepped

omit sound

theorem Sound.of_reaches (comes : ReflTransGen (Next graph) (start graph) tour) :
    tour.Sound graph := by
  induction comes with
  | refl => exact sound_start graph
  | tail _ stepped sound => exact (sound.after stepped).1

/-! ## No cycle goes unnoticed -/

/-- All ways from a black node come to an end, and each node after one on the stack is still to be
looked at, black, or further up. -/
structure Silent (graph : Graph) (tour : Tour) : Prop where
  ends : ∀ id, tour.colour id = .black → graph.Ends id
  looked : ∀ above frame below, tour.stack = above ++ frame :: below →
    ∀ child ∈ graph.onward frame.1,
      child ∈ frame.2 ∨ tour.colour child = .black ∨ child ∈ above.map Prod.fst

theorem Silent.enter (ends : ∀ id, tour.colour id = .black → graph.Ends id)
    (looked : ∀ above frame below, tour.stack = above ++ frame :: below →
      ∀ other ∈ graph.onward frame.1,
        other ∈ frame.2 ∨ tour.colour other = .black ∨ other = id ∨ other ∈ above.map Prod.fst)
    (white : tour.colour id = .white) : (tour.enter graph id).Silent graph where
  ends other black := by
    by_cases same : other = id
    · simp [Tour.enter, same] at black
    · exact ends other (by simpa [Tour.enter, same] using black)
  looked above frame below shape other onward := by
    cases above with
    | nil =>
      cases shape
      exact .inl onward
    | cons top above =>
      obtain ⟨rfl, lower⟩ := cons.inj shape
      rcases looked above frame below lower other onward with left | black | rfl | above
      · exact .inl left
      · have different : other ≠ id := by
          rintro rfl
          cases black.symm.trans white
        exact .inr (.inl (by simpa [Tour.enter, different] using black))
      · exact .inr (.inr mem_cons_self)
      · exact .inr (.inr (mem_cons_of_mem _ above))

/-- A step that finds no cycle keeps what holds as long as none is found. -/
theorem Silent.after (stepped : tour.Next graph next) (none : next.cycles = [])
    (silent : tour.cycles = [] → tour.Silent graph) : next.Silent graph := by
  obtain ⟨roots, _ | ⟨⟨id, _ | ⟨child, rest⟩⟩, below⟩, path, colour, cycles⟩ := tour
  · cases roots with
    | nil => cases stepped
    | cons root rest =>
      by_cases white : colour root = .white
      · cases (if_pos white).symm.trans stepped
        exact .enter (silent none).ends (by simp) white
      · cases (if_neg white).symm.trans stepped
        exact ⟨(silent none).ends, (silent none).looked⟩
  · cases stepped
    obtain ⟨ends, looked⟩ := silent none
    have left : graph.Ends id := .intro _ fun other onward => by
      rcases looked [] _ below rfl other onward with left | black | above
      · cases left
      · exact ends other black
      · cases above
    refine ⟨fun other black => ?_, fun above frame below shape other onward => ?_⟩
    · by_cases same : other = id
      · exact same ▸ left
      · exact ends other (by simpa [same] using black)
    · by_cases same : other = id
      · exact .inr (.inl (by simp [same]))
      · have before := looked (_ :: above) frame below (congrArg _ shape) other onward
        simpa [same] using before
  · have looked (silent : Silent graph
      ⟨roots, (id, child :: rest) :: below, path, colour, cycles⟩) :
        ∀ above frame below', (id, rest) :: below = above ++ frame :: below' →
          ∀ other ∈ graph.onward frame.1, other ∈ frame.2 ∨ colour other = .black ∨
            other = child ∨ other ∈ above.map Prod.fst := by
      intro above frame below' shape other onward
      cases above with
      | nil =>
        cases shape
        rcases silent.looked [] _ below rfl other onward with left | black | above
        · exact (mem_cons.1 left).elim (fun same => .inr (.inr (.inl same))) .inl
        · exact .inr (.inl black)
        · cases above
      | cons top above =>
        cases shape
        exact (silent.looked (_ :: above) frame below' rfl other onward).imp_right
          (·.imp_right .inr)
    unfold Next Tour.step at stepped
    dsimp only at stepped
    split at stepped
    · next white =>
        cases stepped
        exact .enter (silent none).ends (looked (silent none)) white
    · next black =>
        cases stepped
        refine ⟨(silent none).ends, fun above frame below' shape other onward => ?_⟩
        rcases looked (silent none) above frame below' shape other onward with
          left | black | rfl | above
        · exact .inl left
        · exact .inr (.inl black)
        · exact .inr (.inl black)
        · exact .inr (.inr above)
    · split at stepped
      · cases stepped
        simp at none
      · cases stepped

theorem Silent.of_reaches (comes : ReflTransGen (Next graph) (start graph) tour) :
    tour.cycles = [] → tour.Silent graph := by
  induction comes with
  | refl => exact fun _ => ⟨nofun, by simp [start]⟩
  | tail _ stepped silent => exact fun none => .after stepped none silent

/-! ## The search makes the same tour -/

/-- The colour of a node by the path and the nodes entered so far. -/
def colourOf (path entered : List Text) (id : Text) : Colour :=
  if id ∈ path then .grey else if id ∈ entered then .black else .white

/-- The tour at a point of the search. -/
def during (roots : List Text) (stack : List (Text × List Text)) (path : List Text)
    (search : Search) : Tour :=
  ⟨roots, stack, path, colourOf path search.entered, search.cycles⟩

variable {roots path : List Text} {stack : List (Text × List Text)} {search : Search}

theorem enter_during :
    (during roots stack path search).enter graph id =
      during roots ((id, graph.onward id) :: stack) (path ++ [id])
        { search with entered := search.entered ++ [id] } := by
  have colours : update (colourOf path search.entered) id .grey =
      colourOf (path ++ [id]) (search.entered ++ [id]) := by
    funext other
    by_cases same : other = id <;> simp [colourOf, same]
  simp [during, Tour.enter, colours]

theorem next_leave (away : id ∉ path) (entered : id ∈ search.entered) :
    Next graph (during roots ((id, []) :: stack) (path ++ [id]) search)
      (during roots stack path search) := by
  have colours : update (colourOf (path ++ [id]) search.entered) id .black =
      colourOf path search.entered := by
    funext other
    by_cases same : other = id <;> simp [colourOf, same, away, entered]
  simp [Next, Tour.step, during, colours]

theorem drop_of_idxOf? {place : Nat} (found : path.idxOf? id = some place) :
    path.drop place = path.dropWhile (· ≠ id) := by
  obtain ⟨-, rfl⟩ := findIdx?_eq_some_iff_findIdx_eq.1 found
  rw [dropWhile_eq_drop_findIdx_not]
  congr 2
  funext other
  exact Bool.eq_iff_iff.2 (by simp)

/-- What the search does with a node, the tour does as well, if it is so with the search from it. -/
theorem reaches_visit {fuel : Nat} (deeper : id ∉ path → ReflTransGen (Next graph)
      ((during roots ((child, rest) :: stack) path search).enter graph id)
      (during roots ((child, rest) :: stack) path (graph.searchFrom fuel path search id))) :
    ReflTransGen (Next graph) (during roots ((child, id :: rest) :: stack) path search)
      (during roots ((child, rest) :: stack) path (graph.visit fuel path search id)) := by
  rw [visit]
  by_cases back : id ∈ path
  · obtain ⟨place, found⟩ := Option.isSome_iff_exists.1 (isSome_idxOf?.2 back)
    refine .single ?_
    simp [Next, Tour.step, during, colourOf, back, found, cycleAt, drop_of_idxOf? found]
  · rw [if_neg back]
    by_cases entered : id ∈ search.entered
    · refine .single ?_
      simp [Next, Tour.step, during, colourOf, back, entered]
    · rw [if_neg entered]
      refine .head ?_ (deeper back)
      simp [Next, Tour.step, during, colourOf, back, entered]

theorem entered_subset_visit :
    ∀ (fuel : Nat) (path : List Text) (search : Search) (id : Text),
      search.entered ⊆ (graph.visit fuel path search id).entered := by
  intro fuel
  induction fuel with
  | zero => exact fun path search id => by rw [visit, searchFrom]; split <;> simp
  | succ fuel ih =>
    intro path search id
    rw [visit, searchFrom_succ]
    split
    · exact List.Subset.refl _
    · split
      · exact List.Subset.refl _
      · exact foldlRecOn (motive := fun later : Search => search.entered ⊆ later.entered) _ _
          (subset_append_left _ _) fun later kept child _ => List.Subset.trans kept (ih _ _ _)

theorem reaches_searchFrom :
    ∀ (fuel : Nat) (path : List Text) (search : Search) (id : Text), (path ++ [id]).Nodup →
      path ++ [id] ⊆ graph.nodeIds → graph.nodes.length < fuel + path.length →
        ∀ stack, ReflTransGen (Next graph) ((during roots stack path search).enter graph id)
          (during roots stack path (graph.searchFrom fuel path search id)) := by
  intro fuel
  induction fuel with
  | zero =>
    intro path search id distinct known enough
    have bound := length_le_nodes distinct known
    simp only [length_append, length_singleton] at bound
    omega
  | succ fuel ih =>
    intro path search id distinct known enough stack
    have visits : ∀ (children : List Text) (search : Search), children ⊆ graph.onward id →
        id ∈ search.entered → ReflTransGen (Next graph)
          (during roots ((id, children) :: stack) (path ++ [id]) search)
          (during roots stack path (children.foldl (graph.visit fuel (path ++ [id])) search)) := by
      intro children
      induction children with
      | nil =>
        intro search _ entered
        have away : id ∉ path := fun member =>
          (nodup_append.1 distinct).2.2 id member id mem_cons_self rfl
        exact .single (next_leave away entered)
      | cons child rest ih' =>
        intro search onward entered
        have node := (mem_onward_iff.1 (onward mem_cons_self)).2
        refine (reaches_visit fun away => ih _ search child ?_ ?_ ?_ _).trans
          (ih' _ (fun _ member => onward (mem_cons_of_mem _ member)) ?_)
        · exact nodup_append.2 ⟨distinct, nodup_singleton _, by grind⟩
        · exact append_subset.2 ⟨known, by simpa using node⟩
        · simp only [length_append, length_singleton]
          omega
        · exact entered_subset_visit _ _ _ _ entered
    rw [enter_during, searchFrom_succ]
    exact visits _ _ (List.Subset.refl _) (mem_append_right _ mem_cons_self)

/-- The whole tour comes to where the search ends. -/
theorem reaches_unlabeledCycles (graph : Graph) :
    ∃ last : Tour, ReflTransGen (Next graph) (start graph) last ∧ last.step graph = .done ∧
      last.cycles = graph.unlabeledCycles := by
  have starts : ∀ (roots : List Text) (search : Search), roots ⊆ graph.nodeIds →
      ReflTransGen (Next graph) (during roots [] [] search)
        (during [] [] [] (roots.foldl (fun search id => if id ∈ search.entered then search
          else graph.searchFrom (graph.nodes.length + 1) [] search id) search)) := by
    intro roots
    induction roots with
    | nil => exact fun search _ => .refl
    | cons root rest ih =>
      intro search known
      obtain ⟨node, known⟩ := cons_subset.1 known
      rw [foldl_cons]
      by_cases entered : root ∈ search.entered
      · rw [if_pos entered]
        refine .head ?_ (ih search known)
        simp [Next, Tour.step, during, colourOf, entered]
      · rw [if_neg entered]
        refine .head (b := (during rest [] [] search).enter graph root) ?_
          ((reaches_searchFrom _ [] search root (nodup_singleton _) (by simpa using node)
            (Nat.lt_succ_self _) []).trans (ih _ known))
        simp [Next, Tour.step, during, colourOf, entered]
  have first : start graph = during graph.nodeIds [] [] {} := rfl
  exact ⟨_, first ▸ starts _ {} (List.Subset.refl _), rfl, rfl⟩

end Tour

/-! ## A cycle is found exactly when there is one -/

theorem IsCycle.transGen {cycle : List Text} (cyclic : graph.IsCycle cycle) :
    ∃ id, TransGen graph.Continues id id := by
  obtain ⟨first, rest, rfl, -, chain⟩ := cyclic
  obtain ⟨second, more, same⟩ : ∃ second more, rest ++ [first] = second :: more := by
    cases rest <;> simp
  rw [cons_append, same, isChain_cons_cons] at chain
  exact ⟨first, .head' chain.1 (relationReflTransGen_of_exists_isChain_cons more chain.2
    (by simp [← same]))⟩

/-- **Where no cycle is, none is reported.** -/
theorem unlabeledCycles_eq_nil (acyclic : ∀ id, ¬TransGen graph.Continues id id) :
    graph.unlabeledCycles = [] := by
  obtain ⟨last, comes, -, found⟩ := Tour.reaches_unlabeledCycles graph
  refine eq_nil_iff_forall_not_mem.2 fun cycle listed => ?_
  obtain ⟨id, around⟩ := ((Tour.Sound.of_reaches comes).cycles cycle (found ▸ listed)).transGen
  exact acyclic id around

/-- After a silent search all nodes come to an end. -/
theorem ends_of_silent (silent : graph.unlabeledCycles = []) :
    ∀ id ∈ graph.nodeIds, graph.Ends id := by
  obtain ⟨last, comes, done, found⟩ := Tour.reaches_unlabeledCycles graph
  exact fun id listed => (Tour.Silent.of_reaches comes (found.trans silent)).ends id
    ((Tour.Sound.of_reaches comes).black done listed)

/-- **A silent search means that no cycle is there.** -/
theorem acyclic_of_silent (joined : ∀ edge ∈ graph.edges, edge.target ∈ graph.nodeIds)
    (silent : graph.unlabeledCycles = []) (id : Text) :
    ¬TransGen graph.Continues id id := by
  intro cycle
  have onward : TransGen (fun later earlier => later ∈ graph.onward earlier) id id := by
    refine transGen_swap.1 (cycle.lift (fun node => node) fun first second step => ?_)
    obtain ⟨edge, listed, other, source, rfl⟩ := step
    exact mem_onward_iff.2 ⟨⟨edge, listed, other, source, rfl⟩, joined edge listed⟩
  have node : id ∈ graph.nodeIds := by
    obtain ⟨_, _, edge, listed, _, _, rfl⟩ := TransGen.tail'_iff.1 cycle
    exact joined edge listed
  have ends : Acc (TransGen fun later earlier => later ∈ graph.onward earlier) id :=
    (ends_of_silent silent id node).transGen
  induction ends with
  | intro id _ ih => exact ih id onward cycle onward node

/-! ## The colours of a node -/

def Colour.shades : Colour → List Colour
  | white => [white, grey, black]
  | grey => [grey, black]
  | black => [black]

/-- A node that gets darker until it is black has each colour in turn. -/
theorem Colour.destutter_eq_shades {colours : List Colour} {first : Colour}
    (darkens : (first :: colours).IsChain Darkens)
    (ends : (first :: colours).getLast? = some .black) :
    (first :: colours).destutter (· ≠ ·) = first.shades := by
  rw [destutter_cons']
  induction colours generalizing first with
  | nil =>
    cases ends
    rfl
  | cons second rest ih =>
    obtain ⟨darker, darkens⟩ := isChain_cons_cons.1 darkens
    rw [getLast?_cons_cons] at ends
    have later := ih darkens ends
    rcases darker with rfl | ⟨rfl, rfl⟩ | ⟨rfl, rfl⟩
    · rw [destutter'_cons_neg _ (by simp), later]
    · rw [destutter'_cons_pos _ (by decide), later]
      rfl
    · rw [destutter'_cons_pos _ (by decide), later]
      rfl

/-- **The search for cycles.**  On every graph the tour ends, with the cycles that the search finds.
All along, its path is that of the stack and holds the grey nodes, each once; every node is white,
then grey and then black; and each cycle leads over different nodes back to its first one, by edges
that do not go into loop bodies. -/
theorem cycle_search_tour (graph : Graph) :
    (∃ tours : List Tour, tours.head? = some (.start graph) ∧ tours.IsChain (Tour.Next graph) ∧
      (∃ last, tours.getLast? = some last ∧ last.step graph = .done ∧
        last.cycles = graph.unlabeledCycles) ∧
      (∀ tour ∈ tours, tour.path = (tour.stack.map Prod.fst).reverse ∧ tour.path.Nodup ∧
        ∀ id, tour.colour id = .grey ↔ id ∈ tour.path) ∧
      ∀ id ∈ graph.nodeIds,
        (tours.map (·.colour id)).destutter (· ≠ ·) = [.white, .grey, .black]) ∧
    ∀ cycle ∈ graph.unlabeledCycles, graph.IsCycle cycle := by
  obtain ⟨last, comes, done, found⟩ := Tour.reaches_unlabeledCycles graph
  obtain ⟨tours, chain, ends⟩ := exists_isChain_cons_of_relationReflTransGen comes
  have sound : ∀ tour ∈ Tour.start graph :: tours, tour.Sound graph :=
    chain.induction _ _ (fun _ _ stepped sound => (sound.after stepped).1)
      fun _ => Tour.sound_start graph
  have final : last.Sound graph := sound last (ends ▸ getLast_mem _)
  have ends : (Tour.start graph :: tours).getLast? = some last := by
    rw [getLast?_eq_some_getLast (cons_ne_nil _ _), ends]
  refine ⟨⟨_, rfl, chain, ⟨last, ends, done, found⟩, fun tour listed =>
    ⟨(sound tour listed).path, (sound tour listed).distinct, (sound tour listed).grey⟩,
    fun id listed => ?_⟩, fun cycle listed => final.cycles cycle (found ▸ listed)⟩
  have darkens : ((Tour.start graph :: tours).map (·.colour id)).IsChain Colour.Darkens :=
    (isChain_map _).2 (chain.imp_of_mem_tail_imp fun tour next among _ stepped =>
      ((sound tour among).after stepped).2 id)
  have blackened : ((Tour.start graph :: tours).map (·.colour id)).getLast? = some .black := by
    rw [getLast?_map, ends]
    exact congrArg some (final.black done listed)
  exact Colour.destutter_eq_shades darkens blackened

end AgentFlow.Workflow.Graph
