import AgentFlow.Proofs.Alongside
import AgentFlow.Proofs.Target.Writing

/-!
# Rendered expressions are read as their images

The grammar of the generated language gives back what was rendered.  A text is read as its code
wherever its binding is at least the one that the place requires; the proof goes by that binding.  A
left operand of the same connective has to be known as a chain that goes on.
-/

namespace AgentFlow.Expr

open List Target
open AgentFlow.Except (bind_eq_ok pure_eq_ok)

/-! ## What is known about rendered code -/

/-- What is known about rendered code: it is written for its image, and it has the binding of a
connective exactly when it is a chain of that connective. -/
structure Composed (code : Rendered) (value : Code) : Prop where
  writes : Writes code.binding code.text value
  chain : ∀ op, code.binding = chainBinding op →
    ∃ first more, value = .boolOp op (first :: more) ∧ WritesChain op code.text first more
  bound : ∀ op values, value = .boolOp op values → code.binding = chainBinding op

theorem chainBinding_injective {op other : BoolOp} (same : chainBinding op = chainBinding other) :
    op = other := by
  cases op <;> cases other <;> first | rfl | cases same

namespace Composed

variable {code : Rendered} {value : Code}

theorem of_writes (writes : Writes code.binding code.text value)
    (apart : ∀ op, code.binding ≠ chainBinding op)
    (single : ∀ op values, value ≠ .boolOp op values) : Composed code value where
  writes := writes
  chain op same := absurd same (apart op)
  bound op values same := absurd same (single op values)

theorem of_chain {op : BoolOp} {text : Text} {first : Code} {more : List Code}
    (chain : WritesChain op text first more) (several : more ≠ []) :
    Composed ⟨text, chainBinding op⟩ (.boolOp op (first :: more)) where
  writes := chain.writes several
  chain other same := by
    cases chainBinding_injective same
    exact ⟨first, more, rfl, chain⟩
  bound other values same := by
    cases same
    rfl

/-- Code in the place of a left operand of a connective begins a chain, or goes on with one. -/
theorem leftOperand (composed : Composed code value) (op : BoolOp) :
    ∃ first more, WritesChain op (code.at (chainBinding op)) first more ∧
      ∀ right, Expr.joined op value right = .boolOp op (first :: (more ++ [right])) := by
  by_cases same : code.binding = chainBinding op
  · obtain ⟨first, more, rfl, chain⟩ := composed.chain op same
    refine ⟨first, more, ?_, fun right => if_pos rfl⟩
    rw [Rendered.at, same, if_neg (Nat.lt_irrefl _)]
    exact chain
  · refine ⟨value, [], .single ?_, fun right => ?_⟩
    · -- Either parentheses are written, or the code binds tighter than the connective.
      rw [Rendered.at]
      split
      · exact composed.writes.whole.enclosed.loosen (by cases op <;> decide)
      · next tight =>
          refine composed.writes.loosen ?_
          revert same tight
          cases op <;> cases code.binding <;> decide
    · cases value with
      | boolOp inner values =>
        refine if_neg ?_
        rintro rfl
        exact same (composed.bound inner values rfl)
      | _ => rfl

end Composed

/-! ## Names and functions -/

theorem plainName_workflowRoot : PlainName workflowRoot := ⟨by decide, by decide, by decide⟩

theorem plainName_stateRoot : PlainName stateRoot := ⟨by decide, by decide, by decide⟩

theorem plainName_helper {function helper : Text} (known : helpers.lookup function = some helper) :
    PlainName helper := by
  have all : ∀ entry ∈ helpers, entry.2.isIdentifier = true ∧
      entry.2.all (·.toNat < 0x80) = true ∧ isKeyword entry.2 = false := by decide
  obtain ⟨before, after, split, _⟩ := lookup_eq_some_iff.1 known
  obtain ⟨identifier, ascii, free⟩ := all (function, helper) (by rw [split]; simp)
  exact ⟨identifier, ascii, free⟩

theorem writes_renderName {scope : Scope} (plain : PlainName scope.inputAlias) {id name : Text}
    (rendered : renderName scope id = .ok name) :
    Writes .atom name (.name (if id = inputRoot then scope.inputAlias else id)) := by
  unfold renderName at rendered
  split at rendered
  · next same =>
      cases rendered
      rw [same, if_neg (by decide)]
      exact writes_name plainName_workflowRoot
  · split at rendered
    · next same =>
        cases rendered
        rw [same, if_neg (by decide)]
        exact writes_name plainName_stateRoot
    · split at rendered
      · next same =>
          cases rendered
          rw [if_pos same]
          exact writes_name plain
      · cases rendered

/-! ## Literals -/

theorem writes_literal {scope : Scope} {value : Literal} {code : Rendered}
    (plain : HasPlainStrings (.literal value))
    (rendered : render scope (.literal value) = .ok code) :
    code.binding = .atom ∧ Writes .atom code.text (.constant value.constant) := by
  cases value with
  | decimal x =>
    rw [render] at rendered
    split at rendered
    · next finite =>
        cases rendered
        exact ⟨rfl, writes_double finite x.unsigned⟩
    · cases rendered
  | null =>
    cases rendered
    exact ⟨rfl, writes_none⟩
  | bool value =>
    cases rendered
    exact ⟨rfl, writes_bool value⟩
  | integer n =>
    cases rendered
    exact ⟨rfl, writes_nat n.value n.short⟩
  | string text =>
    cases rendered
    exact ⟨rfl, writes_quoted (plain text mem_cons_self)⟩

/-! ## Whole expressions -/

section Rendered

variable {scope : Scope}

theorem images_eq (items : List Expr) : images scope items = items.map (image scope) := by
  induction items with
  | nil => rfl
  | cons item rest ih => rw [images, ih, map_cons]

theorem imageEntries_eq (entries : List (Text × Expr)) :
    imageEntries scope entries =
      entries.map fun entry => (some (.constant (.str entry.1)), image scope entry.2) := by
  induction entries with
  | nil => rfl
  | cons entry rest ih => rw [imageEntries, ih, map_cons]

theorem renderItems_eq_ok {items : List Expr} {texts : List Text} :
    renderItems scope items = .ok texts ↔ List.Forall₂ (fun item text =>
      ∃ code, render scope item = .ok code ∧ code.text = text) items texts := by
  induction items generalizing texts with
  | nil => simp [renderItems, eq_comm]
  | cons item rest ih =>
    simp only [renderItems, bind_eq_ok, pure_eq_ok, ih, forall₂_cons_left_iff]
    grind

theorem renderEntries_eq_ok {entries : List (Text × Expr)} {texts : List Text} :
    renderEntries scope entries = .ok texts ↔ List.Forall₂ (fun entry text =>
      ∃ code, render scope entry.2 = .ok code ∧ entry.1.doubleQuoted ++ ": " ++ code.text = text)
      entries texts := by
  induction entries generalizing texts with
  | nil => simp [renderEntries, eq_comm]
  | cons entry rest ih =>
    simp only [renderEntries, bind_eq_ok, pure_eq_ok, ih, forall₂_cons_left_iff]
    grind

theorem writes_items {items : List Expr}
    (each : ∀ item ∈ items, ∀ code, render scope item = .ok code →
      Composed code (image scope item)) (texts : List Text)
    (rendered : renderItems scope items = .ok texts) :
    List.Forall₂ (Writes .or) texts (images scope items) := by
  rw [images_eq, forall₂_map_right_iff]
  refine (((forall₂_and_left _ _).2 ⟨each, renderItems_eq_ok.1 rendered⟩).imp ?_).flip
  rintro item _ ⟨composed, code, rendered, rfl⟩
  exact (composed code rendered).writes.whole

theorem writes_entries {entries : List (Text × Expr)}
    (plain : ∀ entry ∈ entries, ∀ point ∈ entry.1, point.isSurrogate = false)
    (each : ∀ entry ∈ entries, ∀ code, render scope entry.2 = .ok code →
      Composed code (image scope entry.2)) (texts : List Text)
    (rendered : renderEntries scope entries = .ok texts) :
    List.Forall₂ WritesEntry texts (imageEntries scope entries) := by
  rw [imageEntries_eq, forall₂_map_right_iff]
  refine (((forall₂_and_left _ _).2 ⟨fun entry among => And.intro (plain entry among)
    (each entry among), renderEntries_eq_ok.1 rendered⟩).imp ?_).flip
  rintro entry _ ⟨⟨key, composed⟩, code, rendered, rfl⟩
  exact writes_entry key (composed code rendered).writes.whole

/-- Two operands of a connective, the left one at the binding of the connective and the right one at
the next tighter binding. -/
theorem composed_logical (op : BoolOp) {left right : Rendered} {first second : Code}
    (composed : Composed left first) (composed' : Composed right second) :
    Composed ⟨left.at (chainBinding op) ++ (" " ++ Text.ofString (connectiveWord op) ++ " ") ++
      right.at (operandBinding op), chainBinding op⟩ (Expr.joined op first second) := by
  obtain ⟨head, more, chain, joins⟩ := composed.leftOperand op
  rw [joins]
  exact .of_chain (chain.operand (composed'.writes.place _)) (by simp)

/-- **What is rendered is written for its image.** -/
theorem composed_of_render (plain : PlainName scope.inputAlias) (tree : Expr) :
    ∀ code, tree.Everywhere HasPlainStrings → render scope tree = .ok code →
      Composed code (image scope tree) := by
  intro code strings
  revert code
  refine Everywhere.induction (fun tree strings ih code rendered => ?_) strings
  cases tree with
  | literal value =>
    obtain ⟨binding, written⟩ := writes_literal strings rendered
    exact .of_writes (binding ▸ written) (fun op => by rw [binding]; cases op <;> nofun) nofun
  | name id =>
    simp only [render, bind_eq_ok, pure_eq_ok] at rendered
    obtain ⟨name, rendered, rfl⟩ := rendered
    exact .of_writes (writes_renderName plain rendered) nofun nofun
  | member target key =>
    simp only [render, bind_eq_ok, pure_eq_ok] at rendered
    obtain ⟨_, _, inner, rendered, rfl⟩ := rendered
    have composed := ih target (by simp) inner rendered
    exact .of_writes ((composed.writes.place .access).subscript (writes_quoted key.plain).whole)
      nofun nofun
  | index target position =>
    simp only [render, bind_eq_ok, pure_eq_ok] at rendered
    obtain ⟨outer, rendered, inner, rendered', rfl⟩ := rendered
    have composed := ih target (by simp) outer rendered
    have composed' := ih position (by simp) inner rendered'
    exact .of_writes ((composed.writes.place .access).subscript composed'.writes.whole) nofun nofun
  | call function arguments =>
    rw [render] at rendered
    split at rendered
    · cases rendered
    · next helper known =>
        split at rendered
        · next argument =>
            simp only [bind_eq_ok, pure_eq_ok] at rendered
            obtain ⟨inner, rendered, rfl⟩ := rendered
            have composed := ih argument mem_cons_self inner rendered
            have callee := (writes_name (plainName_helper known)).loosen
              (show Binding.access.rank ≤ Binding.atom.rank by decide)
            rw [image, known]
            exact .of_writes (callee.call composed.writes.whole) nofun nofun
        · cases rendered
  | unary sign operand =>
    simp only [render, bind_eq_ok] at rendered
    obtain ⟨inner, rendered, shape⟩ := rendered
    have composed := ih operand (by simp) inner rendered
    cases sign <;> cases shape
    · exact .of_writes (composed.writes.place .not).negation nofun nofun
    · exact .of_writes (composed.writes.place .unary).minus nofun nofun
    · exact .of_writes (composed.writes.place .unary).plus nofun nofun
  | binary operator left right =>
    simp only [render, bind_eq_ok, pure_eq_ok] at rendered
    obtain ⟨first, rendered, second, rendered', rfl⟩ := rendered
    have composed := ih left (by simp) first rendered
    have composed' := ih right (by simp) second rendered'
    have written := (composed.writes.place operator.binding).arith
      (composed'.writes.place operator.rightBinding)
    simp only [← append_assoc] at written
    exact .of_writes written (fun op => by cases operator <;> cases op <;> nofun) nofun
  | compare comparison left right =>
    simp only [render, bind_eq_ok, pure_eq_ok] at rendered
    obtain ⟨first, rendered, second, rendered', rfl⟩ := rendered
    have composed := ih left (by simp) first rendered
    have composed' := ih right (by simp) second rendered'
    have written := Writes.comparison comparison (composed.writes.place .add)
      (composed'.writes.place .add)
    simp only [← append_assoc] at written
    exact .of_writes written nofun nofun
  | logical connective left right =>
    have composed := ih left (by simp)
    have composed' := ih right (by simp)
    cases connective
    all_goals
      simp only [render, bind_eq_ok, pure_eq_ok] at rendered
      obtain ⟨first, rendered, second, rendered', rfl⟩ := rendered
      specialize composed first rendered
      specialize composed' second rendered'
    · exact composed_logical .and composed composed'
    · exact composed_logical .or composed composed'
  | list items =>
    simp only [render, bind_eq_ok, pure_eq_ok] at rendered
    obtain ⟨texts, rendered, rfl⟩ := rendered
    exact .of_writes (writes_list (writes_items ih texts rendered)) nofun nofun
  | object entries =>
    simp only [render, bind_eq_ok, pure_eq_ok] at rendered
    obtain ⟨texts, rendered, rfl⟩ := rendered
    have plainKeys := fun entry (member : entry ∈ entries) =>
      strings entry.1 (mem_map_of_mem member)
    exact .of_writes (writes_dict (writes_entries plainKeys (forall_mem_map.1 ih) texts rendered))
      nofun nofun

/-- **Rendering keeps the structure of an expression.**  When no string literal and no object key
holds a surrogate, rendered code stands on one line, and the grammar of the generated language reads
it as the image of the expression. -/
theorem parse_render {tree : Expr} {code : Rendered} (plain : PlainName scope.inputAlias)
    (strings : tree.Everywhere HasPlainStrings) (rendered : render scope tree = .ok code) :
    (∀ point ∈ code.text, point ≠ '\n' ∧ point ≠ '\r') ∧
      code.text.toChars?.bind Target.parse = some (image scope tree) := by
  have composed := composed_of_render plain tree code strings rendered
  obtain ⟨chars, same, fits, parsed⟩ := composed.writes.whole.parse
  rw [same, toChars?_ofChars]
  refine ⟨fun point member => ?_, parsed⟩
  obtain ⟨c, inside, rfl⟩ := mem_map.1 member
  have line := fits c inside
  constructor <;> rintro ⟨⟩ <;> exact absurd line (by decide)

end Rendered

/-- An expression with chains on both sides of a connective, a comparison inside another one, and
subtractions that associate to the right. -/
def nested : Expr :=
  .logical .and
    (.logical .and (.name "workflow")
      (.unary .not (.compare .eq (.name "input")
        (.compare .lt (.literal (.integer ⟨1, by decide⟩)) (.literal (.integer ⟨2, by decide⟩))))))
    (.logical .and (.member (.name "state") ⟨"done", by decide⟩)
      (.binary .sub (.literal (.string "a\"\n"))
        (.binary .sub (.literal .null) (.unary .minus (.literal (.bool true))))))

/-- Parentheses stand where the nesting needs them, and only there. -/
theorem parse_render_nested :
    let scope : Scope := { stateFields := ["done"], inputAlias := "previous" }
    let text : Text :=
      "workflow and not previous == (1 < 2) and (state[\"done\"] and \"a\\\"\\n\" - (None - -True))"
    render scope nested = .ok ⟨text, .and⟩ ∧
      text.toChars?.bind Target.parse = some (.boolOp .and [.name "workflow",
        .unaryOp .not (.compare (.name "previous")
          [(.eq, .compare (.constant (.int 1)) [(.lt, .constant (.int 2))])]),
        .boolOp .and [.subscript (.name "state") (.constant (.str "done")),
          .binOp .sub (.constant (.str "a\"\n"))
            (.binOp .sub (.constant .none) (.unaryOp .minus (.constant (.bool true))))]]) := by
  intro scope text
  have rendered : render scope nested = .ok ⟨text, .and⟩ := by rfl
  refine ⟨rendered, ?_⟩
  have strings : nested.Everywhere HasPlainStrings := by decide
  exact (parse_render ⟨by decide, by decide, by decide⟩ strings rendered).2

end AgentFlow.Expr
