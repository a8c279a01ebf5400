import AgentFlow.Expr.Render

/-!
# The image of an expression

What an expression means in the generated language, told by its structure alone.  Accesses become
subscripts, comparisons stand for themselves, and arithmetic keeps its association.  A chain of
connectives that leans to the left becomes one operation on any number of operands.
-/

namespace AgentFlow.Expr

open List
open Target (Code Constant)

/-! ## Parts -/

mutual

/-- An expression and all expressions inside it, from the outside in. -/
@[simp] def parts : Expr → List Expr
  | .literal value => [.literal value]
  | .name id => [.name id]
  | .member target key => .member target key :: parts target
  | .index target position => .index target position :: (parts target ++ parts position)
  | .call function arguments => .call function arguments :: partsOf arguments
  | .unary sign operand => .unary sign operand :: parts operand
  | .binary operator left right => .binary operator left right :: (parts left ++ parts right)
  | .compare comparison left right => .compare comparison left right :: (parts left ++ parts right)
  | .logical connective left right => .logical connective left right :: (parts left ++ parts right)
  | .list items => .list items :: partsOf items
  | .object entries => .object entries :: partsOfEntries entries

@[simp] def partsOf : List Expr → List Expr
  | [] => []
  | item :: rest => parts item ++ partsOf rest

@[simp] def partsOfEntries : List (Text × Expr) → List Expr
  | [] => []
  | (_, value) :: rest => parts value ++ partsOfEntries rest

end

theorem partsOf_eq (items : List Expr) : partsOf items = items.flatMap parts := by
  induction items with
  | nil => rfl
  | cons item rest ih => rw [partsOf, ih, flatMap_cons]

theorem partsOfEntries_eq (entries : List (Text × Expr)) :
    partsOfEntries entries = entries.flatMap fun entry => entry.2.parts := by
  induction entries with
  | nil => rfl
  | cons entry rest ih => rw [partsOfEntries, ih, flatMap_cons]

/-- Something holds of an expression and of all expressions inside it. -/
def Everywhere (holds : Expr → Prop) (tree : Expr) : Prop := ∀ part ∈ tree.parts, holds part

instance (holds : Expr → Prop) [DecidablePred holds] (tree : Expr) :
    Decidable (tree.Everywhere holds) :=
  inferInstanceAs (Decidable (∀ part ∈ tree.parts, holds part))

/-- The expressions that stand directly in an expression. -/
@[simp] def children : Expr → List Expr
  | .literal _ | .name _ => []
  | .member target _ => [target]
  | .index target position => [target, position]
  | .call _ arguments => arguments
  | .unary _ operand => [operand]
  | .binary _ left right | .compare _ left right | .logical _ left right => [left, right]
  | .list items => items
  | .object entries => entries.map Prod.snd

theorem everywhere_iff {holds : Expr → Prop} {tree : Expr} :
    tree.Everywhere holds ↔ holds tree ∧ ∀ child ∈ tree.children, child.Everywhere holds := by
  cases tree <;> simp only [Everywhere, parts, partsOf_eq, partsOfEntries_eq, children,
    forall_mem_cons, forall_mem_append, forall_mem_flatMap, forall_mem_map, not_mem_nil,
    false_implies, implies_true, and_true]

/-- The strings that the outermost construct of an expression writes: a string literal, or the keys
of an object. -/
def strings : Expr → List Text
  | .literal (.string value) => [value]
  | .object entries => entries.map Prod.fst
  | _ => []

/-- The strings of an outermost construct hold no surrogate. -/
def HasPlainStrings (part : Expr) : Prop :=
  ∀ string ∈ part.strings, ∀ point ∈ string, point.isSurrogate = false

instance : DecidablePred HasPlainStrings := fun part =>
  inferInstanceAs (Decidable (∀ string ∈ part.strings, ∀ point ∈ string, point.isSurrogate = false))

/-! ## Operators -/

def Sign.op : Sign → Target.UnaryOp
  | not => .not
  | minus => .minus
  | plus => .plus

def Arith.op : Arith → Target.BinaryOp
  | add => .add
  | sub => .sub
  | mul => .mul
  | div => .div
  | mod => .mod

def Comparison.op : Comparison → Target.CompareOp
  | eq => .eq
  | ne => .notEq
  | lt => .lt
  | le => .ltE
  | gt => .gt
  | ge => .gtE
  | member => .member

def Connective.op : Connective → Target.BoolOp
  | and => .and
  | or => .or

def Literal.constant : Literal → Constant
  | null => .none
  | bool value => .bool value
  | integer value => .int value.value
  | decimal value => .float value.value
  | string value => .str value

/-! ## Images -/

/-- Two operands of a connective; the operands of a chain to the left are taken into the operation.
-/
def joined (op : Target.BoolOp) (left right : Code) : Code :=
  match left with
  | .boolOp inner values =>
    if inner = op then .boolOp op (values ++ [right]) else .boolOp op [left, right]
  | _ => .boolOp op [left, right]

mutual

/-- The image of an expression in a scope. -/
def image (scope : Scope) : Expr → Code
  | .literal value => .constant value.constant
  | .name id => .name (if id = inputRoot then scope.inputAlias else id)
  | .member target key => .subscript (image scope target) (.constant (.str key))
  | .index target position => .subscript (image scope target) (image scope position)
  | .call function arguments =>
    .call (.name ((helpers.lookup function).getD function)) (images scope arguments) []
  | .unary sign operand => .unaryOp sign.op (image scope operand)
  | .binary operator left right => .binOp operator.op (image scope left) (image scope right)
  | .compare comparison left right =>
    .compare (image scope left) [(comparison.op, image scope right)]
  | .logical connective left right =>
    joined connective.op (image scope left) (image scope right)
  | .list items => .list (images scope items)
  | .object entries => .dict (imageEntries scope entries)

def images (scope : Scope) : List Expr → List Code
  | [] => []
  | item :: rest => image scope item :: images scope rest

def imageEntries (scope : Scope) : List (Text × Expr) → List (Option Code × Code)
  | [] => []
  | (key, value) :: rest =>
    (some (.constant (.str key)), image scope value) :: imageEntries scope rest

end

/-! ## Induction over expressions -/

/-- Induction over expressions, with the hypothesis for everything that stands directly in one. -/
theorem induction {motive : Expr → Prop}
    (step : ∀ tree, (∀ child ∈ tree.children, motive child) → motive tree) (tree : Expr) :
    motive tree := by
  refine @Expr.rec motive (fun items => ∀ item ∈ items, motive item)
    (fun entries => ∀ entry ∈ entries, motive entry.2) (fun entry => motive entry.2)
    (fun _ => step _ nofun) (fun _ => step _ nofun) ?_ ?_ (fun _ _ each => step _ each) ?_ ?_ ?_ ?_
    (fun _ each => step _ each) (fun _ each => step _ (forall_mem_map.2 each)) nofun ?_ nofun ?_
    (fun _ _ inner => inner) tree
  case refine_7 | refine_8 => exact fun _ _ first others => forall_mem_cons.2 ⟨first, others⟩
  all_goals
    intros
    refine step _ ?_
    simp_all

/-- Induction over an expression of which something holds everywhere. -/
@[elab_as_elim] theorem Everywhere.induction {holds motive : Expr → Prop}
    (step : ∀ tree, holds tree → (∀ child ∈ tree.children, motive child) → motive tree)
    {tree : Expr} (each : tree.Everywhere holds) : motive tree := by
  induction tree using Expr.induction with
  | step tree ih =>
    obtain ⟨here, inside⟩ := everywhere_iff.1 each
    exact step tree here fun child among => ih child among (inside child among)

end AgentFlow.Expr
