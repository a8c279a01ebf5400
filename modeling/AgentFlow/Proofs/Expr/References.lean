import AgentFlow.Proofs.Expr.Compiled

/-!
# Which fields compiled expressions read

Compiled code reads a field of the input or of the state by a subscript.  An expression can spell
that access as a member, by an index, and through the previous result.  Only the first way is
checked against the declarations, so an access by index to an undeclared field compiles.
-/

namespace AgentFlow

open List

namespace Target.Code

/-- Somewhere in the code, a field is read from what a bare name stands for. -/
def Reads (code : Code) (root key : Text) : Prop :=
  (subscript (.name root) (.constant (.str key))).Inside code

theorem inside_iff {part code : Code} :
    part.Inside code ↔ code = part ∨ ∃ child ∈ code.children, part.Inside child := by
  unfold Inside
  rw [Relation.ReflTransGen.cases_tail_iff]
  exact or_congr_right (exists_congr fun child => and_comm)

end Target.Code

namespace Expr

open Target

/-- The name that a root name of an expression stands for in compiled code. -/
def Scope.nameFor (scope : Scope) (id : Text) : Text :=
  if id = inputRoot then scope.inputAlias else id

/-- A field is declared, in case its root is one of the two records. -/
def Scope.Declares (scope : Scope) (root key : Text) : Prop :=
  (root = workflowRoot → key ∈ scope.inputFields) ∧ (root = stateRoot → key ∈ scope.stateFields)

/-- All fields of the two records that code reads are declared. -/
def ReadsDeclared (scope : Scope) (code : Code) : Prop :=
  ∀ root key, code.Reads root key → scope.Declares root key

/-- If code is itself an access to a field, the field is declared. -/
def OuterDeclared (scope : Scope) : Code → Prop
  | .subscript (.name root) (.constant (.str key)) => scope.Declares root key
  | _ => True

/-- The root name and the key of an expression that is itself an access to a field, by member or by
index. -/
def access? : Expr → Option (Text × Text)
  | .member (.name id) key => some (id, key)
  | .index (.name id) (.literal (.string key)) => some (id, key)
  | _ => none

/-- The same, of those accesses that are not checked: by index, and through the previous result. -/
def detour? : Expr → Option (Text × Text)
  | .member (.name id) key => if id = inputRoot then some (id, key) else none
  | .index (.name id) (.literal (.string key)) => some (id, key)
  | _ => none

/-- An expression that is itself an access is one to a declared field. -/
def AccessDeclared (scope : Scope) (part : Expr) : Prop :=
  ∀ access ∈ part.access?, scope.Declares (scope.nameFor access.1) access.2

/-- An expression that is itself an access past the check is one to a declared field. -/
def DetourDeclared (scope : Scope) (part : Expr) : Prop :=
  ∀ access ∈ part.detour?, scope.Declares (scope.nameFor access.1) access.2

instance (scope : Scope) (root key : Text) : Decidable (scope.Declares root key) :=
  inferInstanceAs (Decidable (_ ∧ _))

instance (scope : Scope) : DecidablePred (DetourDeclared scope) := fun part =>
  inferInstanceAs (Decidable (∀ access ∈ part.detour?,
    scope.Declares (scope.nameFor access.1) access.2))

variable {scope : Scope} {code left right : Code} {op : BoolOp} {tree part target : Expr}
  {key : Text}

/-! ## One level of code -/

theorem outerDeclared_iff :
    OuterDeclared scope code ↔ ∀ root key,
      code = .subscript (.name root) (.constant (.str key)) → scope.Declares root key := by
  constructor
  · rintro declared root key rfl
    exact declared
  · intro declared
    unfold OuterDeclared
    split
    · exact declared _ _ rfl
    · trivial

theorem readsDeclared_iff :
    ReadsDeclared scope code ↔
      OuterDeclared scope code ∧ ∀ child ∈ code.children, ReadsDeclared scope child := by
  rw [outerDeclared_iff]
  constructor
  · intro declared
    refine ⟨fun root key same => declared root key (Code.inside_iff.2 (.inl same)), ?_⟩
    exact fun child among root key inside =>
      declared root key (Code.inside_iff.2 (.inr ⟨child, among, inside⟩))
  · rintro ⟨outer, inner⟩ root key inside
    rcases Code.inside_iff.1 inside with same | ⟨child, among, inside⟩
    · exact outer root key same
    · exact inner child among root key inside

theorem readsDeclared_boolOp {values : List Code} :
    ReadsDeclared scope (.boolOp op values) ↔ ∀ value ∈ values, ReadsDeclared scope value := by
  rw [readsDeclared_iff]
  exact and_iff_right trivial

/-- A chain that is taken into an operation reads what it reads by itself. -/
theorem readsDeclared_joined :
    ReadsDeclared scope (joined op left right) ↔
      ReadsDeclared scope left ∧ ReadsDeclared scope right := by
  unfold joined
  split
  · split
    · rw [readsDeclared_boolOp, readsDeclared_boolOp, forall_mem_append, forall_mem_singleton]
    · rw [readsDeclared_boolOp, forall_mem_cons, forall_mem_singleton]
  · rw [readsDeclared_boolOp, forall_mem_cons, forall_mem_singleton]

/-! ## Accesses of an expression and of its image -/

theorem joined_ne_name {id : Text} : joined op left right ≠ .name id := by
  unfold joined
  split
  · split <;> nofun
  · nofun

theorem image_eq_name_iff {root : Text} :
    image scope tree = .name root ↔ ∃ id, tree = .name id ∧ scope.nameFor id = root := by
  cases tree with
  | name id => simp [image, Scope.nameFor]
  | logical connective left right =>
    rw [image]
    refine ⟨fun same => absurd same joined_ne_name, ?_⟩
    rintro ⟨_, other, _⟩
    cases other
  | _ => simp [image]

theorem image_eq_string_iff :
    image scope tree = .constant (.str key) ↔ tree = .literal (.string key) := by
  cases tree with
  | literal value => cases value <;> simp [image, Literal.constant]
  | logical connective left right =>
    rw [image]
    unfold joined
    split
    · split <;> simp
    · simp
  | _ => simp [image]

theorem access?_eq_some_iff {id : Text} :
    part.access? = some (id, key) ↔
      (∃ field : Field, part = .member (.name id) field ∧ field.text = key) ∨
        part = .index (.name id) (.literal (.string key)) := by
  unfold access?
  split
  · simp
  · simp
  · next notMember notIndex =>
      constructor
      · nofun
      · rintro (⟨field, rfl, -⟩ | rfl)
        · exact absurd rfl (notMember id field)
        · exact absurd rfl (notIndex id key)

theorem accessDeclared_of_eq_none (none : part.access? = none) : AccessDeclared scope part := by
  intro access found
  rw [none] at found
  cases found

theorem accessDeclared_iff_forall :
    AccessDeclared scope part ↔
      ∀ id key, part.access? = some (id, key) → scope.Declares (scope.nameFor id) key :=
  ⟨fun declared id key found => declared (id, key) found,
    fun declared access found => declared access.1 access.2 found⟩

theorem outerDeclared_member {key : Field} :
    OuterDeclared scope (image scope (.member target key)) ↔
      AccessDeclared scope (.member target key) := by
  rw [outerDeclared_iff, accessDeclared_iff_forall, image]
  simp only [Code.subscript.injEq, image_eq_name_iff, Code.constant.injEq, Constant.str.injEq,
    access?_eq_some_iff]
  constructor
  · rintro declared id name (⟨field, same, rfl⟩ | other)
    · cases same
      exact declared _ _ ⟨⟨id, rfl, rfl⟩, rfl⟩
    · cases other
  · rintro declared root name ⟨⟨id, rfl, rfl⟩, rfl⟩
    exact declared id key (.inl ⟨key, rfl, rfl⟩)

theorem outerDeclared_index {position : Expr} :
    OuterDeclared scope (image scope (.index target position)) ↔
      AccessDeclared scope (.index target position) := by
  rw [outerDeclared_iff, accessDeclared_iff_forall, image]
  simp only [Code.subscript.injEq, image_eq_name_iff, image_eq_string_iff, access?_eq_some_iff]
  constructor
  · rintro declared id key (⟨field, other, _⟩ | same)
    · cases other
    · cases same
      exact declared _ _ ⟨⟨id, rfl, rfl⟩, rfl⟩
  · rintro declared root key ⟨⟨id, rfl, rfl⟩, rfl⟩
    exact declared id key (.inr rfl)

theorem readsDeclared_name (id : Text) : ReadsDeclared scope (.name id) :=
  readsDeclared_iff.2 ⟨trivial, nofun⟩

theorem readsDeclared_constant (value : Constant) : ReadsDeclared scope (.constant value) :=
  readsDeclared_iff.2 ⟨trivial, nofun⟩

/-- **What the image of an expression reads is declared exactly when all its accesses are.** -/
theorem readsDeclared_image_iff (tree : Expr) :
    ReadsDeclared scope (image scope tree) ↔ tree.Everywhere (AccessDeclared scope) := by
  induction tree using Expr.induction with
  | step tree ih =>
    rw [everywhere_iff, ← forall₂_congr ih]
    cases tree with
    | literal | name =>
      rw [image, and_iff_right (accessDeclared_of_eq_none rfl), readsDeclared_iff]
      simp [OuterDeclared, Code.children]
    | member target key =>
      rw [readsDeclared_iff, outerDeclared_member, image]
      simp [Code.children, readsDeclared_constant]
    | index target position =>
      rw [readsDeclared_iff, outerDeclared_index, image]
      simp [Code.children]
    | call function arguments =>
      rw [and_iff_right (accessDeclared_of_eq_none rfl), image, images_eq, readsDeclared_iff]
      simp only [OuterDeclared, Code.children, map_nil, append_nil, forall_mem_cons,
        forall_mem_map, readsDeclared_name, true_and, children]
    | unary | binary | compare =>
      rw [and_iff_right (accessDeclared_of_eq_none rfl), image, readsDeclared_iff]
      simp [OuterDeclared, Code.children]
    | logical connective left right =>
      rw [and_iff_right (accessDeclared_of_eq_none rfl), image, readsDeclared_joined]
      simp
    | list items =>
      rw [and_iff_right (accessDeclared_of_eq_none rfl), image, images_eq, readsDeclared_iff]
      simp only [OuterDeclared, Code.children, forall_mem_map, true_and, children]
    | object entries =>
      rw [and_iff_right (accessDeclared_of_eq_none rfl), image, imageEntries_eq, readsDeclared_iff]
      simp only [OuterDeclared, Code.children, forall_mem_append, mem_filterMap, forall_mem_map,
        true_and, children]
      refine and_iff_right ?_
      rintro code ⟨_, among, same⟩
      obtain ⟨entry, _, rfl⟩ := mem_map.1 among
      cases same
      exact readsDeclared_constant _

/-! ## What the check of members leaves open -/

/-- Where members of the two records are checked, it is left to the other accesses whether all
fields are declared. -/
theorem accessDeclared_iff (known : InScope scope part) :
    AccessDeclared scope part ↔ DetourDeclared scope part := by
  unfold AccessDeclared DetourDeclared access? detour?
  split
  · next id key =>
      split
      · rfl
      · next other =>
          -- The member has been checked, and its root is no alias.
          refine iff_of_true ?_ nofun
          rintro access ⟨⟩
          rw [Scope.nameFor, if_neg other]
          exact known
  · rfl
  · rfl

theorem Composed.parse {code : Rendered} {value : Code} (composed : Composed code value) :
    code.text.toChars?.bind Target.parse = some value := by
  obtain ⟨chars, same, _, parsed⟩ := composed.writes.whole.parse
  rw [same, toChars?_ofChars]
  exact parsed

/-- **When compiled code reads declared fields only.**  It does so exactly when every access that
goes past the check of members, by an index or through the previous result, leads to a declared
field. -/
theorem fields_declared_iff {source code : Text} (plain : PlainName scope.inputAlias)
    (compiled : compile source scope = .ok code) :
    ∃ tree value, parse source = .ok tree ∧ code.toChars?.bind Target.parse = some value ∧
      (ReadsDeclared scope value ↔ tree.Everywhere (DetourDeclared scope)) := by
  obtain ⟨_, tree, rendered, read, written, checked, rfl⟩ := compile_eq_ok_iff.1 compiled
  have strings := (checkText_render_iff plain written).1 checked
  have known := (render_iff tree).1 ⟨rendered, written⟩
  have composed := composed_of_render plain tree rendered strings written
  refine ⟨tree, image scope tree, read, composed.parse, ?_⟩
  rw [readsDeclared_image_iff]
  exact forall₂_congr fun part inside => accessDeclared_iff (known part inside)

/-- A scope in which the previous result is the input record itself. -/
def asking : Scope := { inputFields := ["question"] }

/-- A question that is read by an index and through the previous result is the declared one. -/
theorem fields_declared_asking :
    let source : Text := "workflow[\"question\"] == input.question"
    let code : Text := "workflow[\"question\"] == workflow[\"question\"]"
    compile source asking = .ok code ∧
      ∃ value, code.toChars?.bind Target.parse = some value ∧ ReadsDeclared asking value := by
  intro source code
  have compiled : compile source asking = .ok code := by decide +kernel
  have plain : PlainName asking.inputAlias := by decide
  obtain ⟨tree, value, read, parsed, declared⟩ := fields_declared_iff plain compiled
  have accesses : (parse source).toOption.all
      (fun tree => decide (tree.Everywhere (DetourDeclared asking))) = true := by decide +kernel
  rw [read] at accesses
  exact ⟨compiled, value, parsed, declared.2 (of_decide_eq_true accesses)⟩

/-- A field that is not declared can be read by an index. -/
theorem undeclared_field_compiles :
    let source : Text := "workflow[\"missing\"]"
    compile source asking = .ok source ∧
      ∃ value, source.toChars?.bind Target.parse = some value ∧ ¬ ReadsDeclared asking value := by
  intro source
  let tree : Expr := .index (.name "workflow") (.literal (.string "missing"))
  have rendered : render asking tree = .ok ⟨source, .access⟩ := by rfl
  have strings : tree.Everywhere HasPlainStrings := by decide
  have composed := composed_of_render (by decide) tree _ strings rendered
  refine ⟨by decide +kernel, _, composed.parse, fun declared => ?_⟩
  exact absurd ((declared _ _ .refl).1 rfl) (by decide)

end Expr

end AgentFlow
