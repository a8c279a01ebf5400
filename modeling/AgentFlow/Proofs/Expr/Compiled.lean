import AgentFlow.Emit.Draft
import AgentFlow.Proofs.Expr.Rendering
import AgentFlow.Proofs.Target.Safe
import AgentFlow.Proofs.Text

/-!
# Which expressions compile

An expression is split into tokens, read as a tree and rendered, and what was rendered is read back
and checked.  The last two stages ask nothing new of a tree that could be rendered, except that its
strings can be encoded: the renderer stays inside the language that the check accepts.
-/

namespace AgentFlow.Expr

open List Target
open AgentFlow.Except (exists_bind_eq_ok exists_pure_eq_ok bind_eq_ok pure_eq_ok)

/-- The outermost construct of an expression is known in a scope: a root name, a helper with one
argument, a declared field of the two records, a finite number. -/
def InScope (scope : Scope) : Expr → Prop
  | .literal (.decimal x) => x.value.isFinite = true
  | .name id => id ∈ [workflowRoot, stateRoot, inputRoot]
  | .member (.name id) key =>
    (id = workflowRoot → key.text ∈ scope.inputFields) ∧
      (id = stateRoot → key.text ∈ scope.stateFields)
  | .call function arguments => function ∈ helpers.map Prod.fst ∧ arguments.length = 1
  | _ => True

variable {scope : Scope} {function source : Text} {items : List Expr} {entries : List (Text × Expr)}
  {code : Rendered} {texts : List Text} {tree : Expr}

/-! ## What can be rendered -/

theorem renderName_iff {id : Text} :
    (∃ name, renderName scope id = .ok name) ↔ id ∈ [workflowRoot, stateRoot, inputRoot] := by
  simp only [renderName, mem_cons, not_mem_nil, or_false]
  split
  · next same => simp [same]
  · next other =>
      split
      · next same => simp [same]
      · next another =>
          split
          · next same => simp [same]
          · next unknown => simp [other, another, unknown]

theorem checkField_iff {target : Expr} {key : Field} :
    checkField scope target key = .ok () ↔ InScope scope (.member target key) := by
  cases target with
  | name id =>
    simp only [checkField, InScope]
    split
    · next missing => simp [missing]
    · next known =>
        split
        · next missing => simp [missing]
        · next known' => grind
  | _ => simp [checkField, InScope]

theorem exists_helper_iff :
    (∃ helper, helpers.lookup function = some helper) ↔ function ∈ helpers.map Prod.fst := by
  rw [← Option.isSome_iff_exists, ← Option.ne_none_iff_isSome, ne_eq, lookup_eq_none_iff, mem_map]
  push Not
  refine exists_congr fun entry => and_congr_right fun _ => ?_
  rw [ne_eq, Bool.not_eq_true, bne_eq_false_iff_eq, eq_comm]

theorem render_call_iff {arguments : List Expr} :
    (∃ code, render scope (.call function arguments) = .ok code) ↔
      InScope scope (.call function arguments) ∧
        ∀ argument ∈ arguments, ∃ code, render scope argument = .ok code := by
  simp only [InScope, ← exists_helper_iff, render]
  split
  · next unknown => simp [unknown]
  · next helper known =>
      split
      · next argument =>
          simp only [exists_bind_eq_ok, exists_pure_eq_ok, and_true, forall_mem_singleton]
          exact ⟨fun rendered => ⟨⟨⟨helper, known⟩, rfl⟩, rendered⟩, And.right⟩
      · next several =>
          constructor
          · rintro ⟨_, failed⟩
            cases failed
          · rintro ⟨⟨_, one⟩, _⟩
            obtain ⟨argument, rfl⟩ := length_eq_one_iff.1 one
            exact absurd rfl (several argument)

theorem renderItems_iff :
    (∃ texts, renderItems scope items = .ok texts) ↔
      ∀ item ∈ items, ∃ code, render scope item = .ok code := by
  simp only [renderItems_eq_ok, exists_forall₂_iff]
  grind

theorem renderEntries_iff :
    (∃ texts, renderEntries scope entries = .ok texts) ↔
      ∀ entry ∈ entries, ∃ code, render scope entry.2 = .ok code := by
  simp only [renderEntries_eq_ok, exists_forall₂_iff]
  grind

/-- **An expression can be rendered exactly when everything in it is known in the scope.** -/
theorem render_iff (tree : Expr) :
    (∃ code, render scope tree = .ok code) ↔ tree.Everywhere (InScope scope) := by
  induction tree using Expr.induction with
  | step tree ih =>
    rw [everywhere_iff, ← forall₂_congr ih]
    cases tree with
    | literal value =>
      cases value with
      | decimal x =>
        simp only [render, InScope]
        split
        · next finite => simp [finite]
        · next infinite => simp [infinite]
      | _ => simp [render, InScope]
    | name id =>
      rw [InScope, ← @renderName_iff scope]
      simp only [render, exists_bind_eq_ok, exists_pure_eq_ok, and_true, children,
        not_mem_nil, false_implies, implies_true]
    | member target key =>
      rw [← checkField_iff]
      simp only [render, exists_bind_eq_ok, exists_pure_eq_ok, and_true,
        exists_and_right, children, forall_mem_singleton]
      refine and_congr_left fun _ => ⟨?_, fun known => ⟨(), known⟩⟩
      rintro ⟨_, known⟩
      exact known
    | call function arguments => exact render_call_iff
    | unary sign operand =>
      cases sign <;> simp [-bind_pure_comp, render, InScope, exists_bind_eq_ok,
        exists_pure_eq_ok]
    | logical connective =>
      cases connective <;> simp [-bind_pure_comp, render, InScope, exists_bind_eq_ok,
        exists_pure_eq_ok]
    | index | binary | compare | list =>
      simp [-bind_pure_comp, render, InScope, exists_bind_eq_ok, exists_pure_eq_ok, renderItems_iff]
    | object entries =>
      simp only [render, InScope, exists_bind_eq_ok, exists_pure_eq_ok, and_true,
        true_and, renderEntries_iff, children, forall_mem_map]

/-! ## Surrogates are rendered as they are -/

theorem Rendered.mem_at {required : Binding} {point : CodePoint} (member : point ∈ code.text) :
    point ∈ code.at required := by
  rw [Rendered.at]
  split
  · exact mem_append_left _ (mem_append_right _ member)
  · exact member

/-- A text holds the surrogates of the strings of an outermost construct. -/
def Shows (text : Text) (part : Expr) : Prop :=
  ∀ string ∈ part.strings, ∀ point ∈ string, point.isSurrogate = true → point ∈ text

theorem shows_mono {text whole : Text} (subset : text ⊆ whole)
    (shown : tree.Everywhere (Shows text)) : tree.Everywhere (Shows whole) :=
  fun part inside string among point member surrogate =>
    subset (shown part inside string among point member surrogate)

theorem exists_rendered_child (rendered : render scope tree = .ok code) :
    ∀ child ∈ tree.children, ∃ inner, render scope child = .ok inner ∧ inner.text ⊆ code.text := by
  cases tree with
  | literal | name => nofun
  | member target key =>
    simp only [render, bind_eq_ok, pure_eq_ok] at rendered
    obtain ⟨_, _, inner, rendered, rfl⟩ := rendered
    exact forall_mem_singleton.2 ⟨inner, rendered, fun point member => by
      simp [Rendered.mem_at member]⟩
  | call function arguments =>
    rw [render] at rendered
    split at rendered
    · cases rendered
    · split at rendered
      · simp only [bind_eq_ok, pure_eq_ok] at rendered
        obtain ⟨inner, rendered, rfl⟩ := rendered
        exact forall_mem_singleton.2 ⟨inner, rendered, fun point member => by simp [member]⟩
      · cases rendered
  | unary sign operand =>
    simp only [render, bind_eq_ok] at rendered
    obtain ⟨inner, rendered, shape⟩ := rendered
    refine forall_mem_singleton.2 ⟨inner, rendered, fun point member => ?_⟩
    cases sign <;> cases shape <;> simp [Rendered.mem_at member]
  | index | binary | compare =>
    simp only [render, bind_eq_ok, pure_eq_ok] at rendered
    obtain ⟨first, rendered, second, rendered', rfl⟩ := rendered
    refine forall_mem_cons.2 ⟨⟨first, rendered, fun point member => ?_⟩,
      forall_mem_singleton.2 ⟨second, rendered', fun point member => ?_⟩⟩
    all_goals simp [Rendered.mem_at, member]
  | logical connective =>
    cases connective
    all_goals
      simp only [render, bind_eq_ok, pure_eq_ok] at rendered
      obtain ⟨first, rendered, second, rendered', rfl⟩ := rendered
      refine forall_mem_cons.2 ⟨⟨first, rendered, fun point member => ?_⟩,
        forall_mem_singleton.2 ⟨second, rendered', fun point member => ?_⟩⟩
    all_goals simp [Rendered.mem_at, member]
  | list items =>
    simp only [render, bind_eq_ok, pure_eq_ok] at rendered
    obtain ⟨texts, rendered, rfl⟩ := rendered
    intro item among
    obtain ⟨_, listed, inner, rendered, rfl⟩ :=
      exists_of_mem_left (renderItems_eq_ok.1 rendered) among
    exact ⟨inner, rendered, fun point member => by simp [Text.mem_join listed member]⟩
  | object entries =>
    simp only [render, bind_eq_ok, pure_eq_ok] at rendered
    obtain ⟨texts, rendered, rfl⟩ := rendered
    refine forall_mem_map.2 fun entry among => ?_
    obtain ⟨_, listed, inner, rendered, rfl⟩ :=
      exists_of_mem_left (renderEntries_eq_ok.1 rendered) among
    exact ⟨inner, rendered, fun point member => by
      simp [Text.mem_join listed (mem_append_right _ member)]⟩

/-- What is rendered holds the surrogates of the strings of its outermost construct. -/
theorem shows_outermost (rendered : render scope tree = .ok code) : Shows code.text tree := by
  intro string among point member surrogate
  have quoted := Text.mem_doubleQuoted surrogate member
  cases tree with
  | literal value =>
    cases value with
    | string text =>
      cases rendered
      cases mem_singleton.1 among
      exact quoted
    | _ => cases among
  | object entries =>
    simp only [render, bind_eq_ok, pure_eq_ok] at rendered
    obtain ⟨texts, rendered, rfl⟩ := rendered
    obtain ⟨entry, isEntry, rfl⟩ := mem_map.1 among
    obtain ⟨_, listed, inner, _, rfl⟩ := exists_of_mem_left (renderEntries_eq_ok.1 rendered) isEntry
    simp [Text.mem_join listed (mem_append_left _ (mem_append_left _ quoted))]
  | _ => cases among

/-- What is rendered holds every surrogate of its strings. -/
theorem shows_of_render (tree : Expr) :
    ∀ code, render scope tree = .ok code → tree.Everywhere (Shows code.text) := by
  induction tree using Expr.induction with
  | step tree ih =>
    intro code rendered
    refine everywhere_iff.2 ⟨shows_outermost rendered, fun child among => ?_⟩
    obtain ⟨inner, rendered, subset⟩ := exists_rendered_child rendered child among
    exact shows_mono subset (ih child among inner rendered)

/-! ## Images are safe -/

theorem safe_joined {allowed : List Text} {op : BoolOp} {left right : Code}
    (onLeft : Safe allowed left) (onRight : Safe allowed right) :
    Safe allowed (Expr.joined op left right) := by
  have pair : Safe allowed (.boolOp op [left, right]) :=
    .boolOp _ _ (by simp [onLeft, onRight])
  cases onLeft with
  | boolOp inner values each =>
    simp only [Expr.joined]
    split
    · exact .boolOp _ _ (forall_mem_append.2 ⟨each, forall_mem_singleton.2 onRight⟩)
    · exact pair
  | _ => exact pair

/-- **The image of an expression whose names and functions are known is safe.** -/
theorem safe_image (tree : Expr) :
    tree.Everywhere (InScope scope) → Safe scope.allowedNames (image scope tree) := by
  refine Everywhere.induction fun tree known ih => ?_
  cases tree with
  | literal value => exact .constant _
  | name id =>
    refine .name _ (.inl (Text.mem_dedup_of_mem ?_))
    simp only [InScope, mem_cons, not_mem_nil, or_false] at known
    rcases known with rfl | rfl | rfl
    · exact mem_cons_self
    · exact mem_cons_of_mem _ mem_cons_self
    · simp
  | member target key => exact .subscript _ _ (ih target (by simp)) (.constant _)
  | index target position =>
    exact .subscript _ _ (ih target (by simp)) (ih position (by simp))
  | call function arguments =>
    obtain ⟨name, found⟩ := exists_helper_iff.2 known.1
    rw [image, images_eq, found]
    refine .call name _ ?_ (forall_mem_map.2 ih)
    obtain ⟨before, after, split, _⟩ := lookup_eq_some_iff.1 found
    exact mem_map.2 ⟨(function, name), by rw [split]; simp, rfl⟩
  | unary sign operand =>
    exact .unaryOp _ _ (by cases sign <;> decide) (ih operand (by simp))
  | binary operator left right =>
    exact .binOp _ _ _ (by cases operator <;> decide) (ih left (by simp)) (ih right (by simp))
  | compare comparison left right =>
    have plain : comparison.op ∈ [.eq, .notEq, .lt, .gt, .ltE, .gtE, .member] := by
      cases comparison <;> decide
    exact .compare _ _ (forall_mem_singleton.2 plain) (ih left (by simp))
      (forall_mem_singleton.2 (ih right (by simp)))
  | logical connective left right =>
    exact safe_joined (ih left (by simp)) (ih right (by simp))
  | list items =>
    rw [image, images_eq]
    exact .list _ (forall_mem_map.2 ih)
  | object entries =>
    rw [image, imageEntries_eq]
    refine .dict _ (forall_mem_map.2 fun entry _ key same => ?_)
      (forall_mem_map.2 fun entry among =>
      ih entry.2 (mem_map_of_mem among))
    cases same
    exact .constant _

/-! ## The check of what was rendered -/

/-- **The check accepts what was rendered exactly when its strings hold no surrogate.** -/
theorem checkText_render_iff (plain : PlainName scope.inputAlias)
    (rendered : render scope tree = .ok code) :
    checkText code.text scope.allowedNames = .ok () ↔ tree.Everywhere HasPlainStrings := by
  constructor
  · intro accepted
    have encodable : code.text.surrogateRun? = none := by
      cases run : code.text.surrogateRun? with
      | none => rfl
      | some found => simp [checkText, run] at accepted
    intro part inside string among point member
    by_contra surrogate
    rw [Bool.not_eq_false] at surrogate
    have shown := shows_of_render tree code rendered part inside string among point member surrogate
    have absent := Text.surrogateRun?_eq_none_iff.1 encodable point shown
    exact Bool.noConfusion (absent.symm.trans surrogate)
  · intro strings
    have composed := composed_of_render plain tree code strings rendered
    obtain ⟨chars, same, fits, parsed⟩ := composed.writes.whole.parse
    have encodable : code.text.surrogateRun? = none := by
      rw [Text.surrogateRun?_eq_none_iff, same]
      intro point member
      obtain ⟨c, _, rfl⟩ := mem_map.1 member
      rfl
    have visible : code.text.contains '\x00' = false := by
      rw [same, Bool.eq_false_iff]
      intro member
      obtain ⟨c, inside, zero⟩ := mem_map.1 (contains_iff_mem.1 member)
      cases zero
      exact absurd (fits _ inside) (by decide)
    have safe := safe_image tree ((render_iff tree).1 ⟨code, rendered⟩)
    rw [checkText, encodable]
    simp only [visible, Bool.false_eq_true, if_false]
    rw [same, toChars?_ofChars, Option.getD_some, parsed]
    exact (check_iff _).2 safe

/-! ## Compiling -/

theorem compile_eq_ok_iff {code : Text} :
    compile source scope = .ok code ↔
      source.isBlank = false ∧ ∃ tree rendered, parse source = .ok tree ∧
        render scope tree = .ok rendered ∧ checkText rendered.text scope.allowedNames = .ok () ∧
          rendered.text = code := by
  simp only [compile, checkCompiled]
  split
  · next blank => simp [blank]
  · next some =>
      rw [Bool.not_eq_true] at some
      split
      · next failed => simp [failed]
      · next tree read =>
          split
          · next failed => simp [some, read, failed]
          · next rendered written =>
              cases checked : checkText rendered.text scope.allowedNames <;>
                simp [some, read, written, checked]

/-- Apart from numbers without a value, an expression that does not compile has a fault. -/
theorem fault_of_compile {failure : Failure}
    (numerals : ∀ fault, tokenize source ≠ .error (.numeral fault))
    (failed : compile source scope = .error failure) : ∃ fault, failure = .fault fault := by
  have unread : ∀ fault, parse source ≠ .error (.numeral fault) := by
    intro fault read
    rw [parse] at read
    cases split : tokenize source with
    | error found =>
      rw [split] at read
      cases read
      exact numerals fault split
    | ok tokens =>
      rw [split] at read
      cases tree : parseTokens tokens with
      | error found => simp [bind, Except.bind, tree] at read
      | ok value => simp [bind, Except.bind, tree, pure, Except.pure] at read
  simp only [compile, checkCompiled] at failed
  split at failed
  · cases failed
    exact ⟨_, rfl⟩
  · split at failed
    · next read =>
        cases failed
        cases failure with
        | fault fault => exact ⟨fault, rfl⟩
        | numeral fault => exact absurd read (unread fault)
    · split at failed
      · cases failed
        exact ⟨_, rfl⟩
      · next rendered _ =>
          cases checked : checkText rendered.text scope.allowedNames with
          | error why =>
            rw [checked] at failed
            cases failed
            exact ⟨_, rfl⟩
          | ok _ =>
            rw [checked] at failed
            cases failed

/-- **The expressions that compile.**  They are not blank, they can be read, everything in them is
known in the scope, and their strings hold no surrogate.  Any other expression has a fault, and the
error names the expression and the node. -/
theorem compiled_iff (source : Text) (scope : Scope) (plain : PlainName scope.inputAlias)
    (numerals : ∀ fault, tokenize source ≠ .error (.numeral fault)) :
    ((∃ code, Emit.compiled source scope = .ok code) ↔
      source.isBlank = false ∧ ∃ tree, parse source = .ok tree ∧
        tree.Everywhere (InScope scope) ∧ tree.Everywhere HasPlainStrings) ∧
      ∀ error, Emit.compiled source scope = .error error →
        ∃ fault, error = .expression fault (some source) scope.nodeId := by
  constructor
  · have compiles : (∃ code, Emit.compiled source scope = .ok code) ↔
        ∃ code, compile source scope = .ok code := by
      rw [Emit.compiled]
      cases compile source scope <;> simp
    simp only [compiles, compile_eq_ok_iff]
    constructor
    · rintro ⟨_, some, tree, rendered, read, written, checked, _⟩
      exact ⟨some, tree, read, (render_iff tree).1 ⟨rendered, written⟩,
        (checkText_render_iff plain written).1 checked⟩
    · rintro ⟨some, tree, read, known, strings⟩
      obtain ⟨rendered, written⟩ := (render_iff tree).2 known
      exact ⟨_, some, tree, rendered, read, written,
        (checkText_render_iff plain written).2 strings, rfl⟩
  · intro error failed
    rw [Emit.compiled] at failed
    split at failed
    · cases failed
    · next failure stopped =>
        obtain ⟨fault, rfl⟩ := fault_of_compile numerals stopped
        cases failed
        exact ⟨fault, rfl⟩

def readiness : Scope :=
  { stateFields := ["ready"], inputAlias := "previous", nodeId := some "check" }

/-- A condition on the state variable compiles, so all of it is known in the scope. -/
theorem compiled_iff_ready :
    (∃ code, Emit.compiled "!state.ready" readiness = .ok code) ∧
      ∃ tree, parse "!state.ready" = .ok tree ∧ tree.Everywhere (InScope readiness) ∧
        tree.Everywhere HasPlainStrings := by
  have numerals : ∀ fault, tokenize "!state.ready" ≠ .error (.numeral fault) := by
    intro fault failed
    have split : (tokenize "!state.ready").isOk = true := by decide +kernel
    rw [failed] at split
    cases split
  have compiles : ∃ code, Emit.compiled "!state.ready" readiness = .ok code :=
    Except.exists_ok (by decide +kernel)
  have plain : PlainName readiness.inputAlias := ⟨by decide, by decide, by decide⟩
  exact ⟨compiles, ((compiled_iff _ readiness plain numerals).1.1 compiles).2⟩

end AgentFlow.Expr
