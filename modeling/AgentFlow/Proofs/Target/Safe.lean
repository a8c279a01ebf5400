import AgentFlow.Expr.Scope
import AgentFlow.Proofs.Stoppable
import Mathlib.Logic.Relation

/-!
# The language that the check accepts

The check stops at the first thing that it does not know.  The language it accepts is given here by
rules, without an order and without errors.  The rules have no access to attributes and nothing that
binds a name or suspends a computation, so an accepted expression holds none of these anywhere.
-/

namespace AgentFlow.Target

open List

/-- The functions that the helpers of the expression language are called as. -/
def builtins : List Text := Expr.helpers.map Prod.snd

theorem mem_helperFunctions_iff {id : Text} : id ∈ helperFunctions ↔ id ∈ builtins := by
  constructor
  · intro member
    exact (show ∀ id ∈ helperFunctions, id ∈ builtins by decide) id member
  · intro member
    exact (show ∀ id ∈ builtins, id ∈ helperFunctions by decide) id member

/-- The safe language, over a list of names that may be used besides the builtins. -/
inductive Safe (allowed : List Text) : Code → Prop
  | constant (value : Constant) : Safe allowed (.constant value)
  | name (id : Text) (known : id ∈ allowed ∨ id ∈ builtins) : Safe allowed (.name id)
  | boolOp (op : BoolOp) (values : List Code) (each : ∀ value ∈ values, Safe allowed value) :
      Safe allowed (.boolOp op values)
  | binOp (op : BinaryOp) (left right : Code) (plain : op ∈ [.add, .sub, .mul, .div, .mod])
      (onLeft : Safe allowed left) (onRight : Safe allowed right) :
      Safe allowed (.binOp op left right)
  | unaryOp (op : UnaryOp) (operand : Code) (plain : op ∈ [.not, .minus, .plus])
      (inner : Safe allowed operand) : Safe allowed (.unaryOp op operand)
  | compare (left : Code) (rest : List (CompareOp × Code))
      (plain : ∀ link ∈ rest, link.1 ∈ [.eq, .notEq, .lt, .gt, .ltE, .gtE, .member])
      (first : Safe allowed left) (each : ∀ link ∈ rest, Safe allowed link.2) :
      Safe allowed (.compare left rest)
  | subscript (value index : Code) (outer : Safe allowed value) (inner : Safe allowed index) :
      Safe allowed (.subscript value index)
  | list (items : List Code) (each : ∀ item ∈ items, Safe allowed item) :
      Safe allowed (.list items)
  | dict (entries : List (Option Code × Code))
      (keys : ∀ entry ∈ entries, ∀ key, entry.1 = some key → Safe allowed key)
      (values : ∀ entry ∈ entries, Safe allowed entry.2) : Safe allowed (.dict entries)
  | call (function : Text) (arguments : List Code) (known : function ∈ builtins)
      (each : ∀ argument ∈ arguments, Safe allowed argument) :
      Safe allowed (.call (.name function) arguments [])

variable {allowed : List Text} {op : BinaryOp} {function left : Code}

/-! ## Operators -/

theorem BinaryOp.isSafe_iff : op.isSafe = true ↔ op ∈ [add, sub, mul, div, mod] := by
  cases op <;> decide

theorem UnaryOp.isSafe_iff {op : UnaryOp} : op.isSafe = true ↔ op ∈ [not, minus, plus] := by
  cases op <;> decide

theorem CompareOp.isSafe_iff {op : CompareOp} :
    op.isSafe = true ↔ op ∈ [eq, notEq, lt, gt, ltE, gtE, member] := by
  cases op <;> decide

theorem Code.isHelper_iff : function.isHelper = true ↔ ∃ id ∈ builtins, function = .name id := by
  cases function with
  | name id => simp [isHelper, mem_helperFunctions_iff]
  | _ => simp [isHelper]

/-! ## The check decides the language -/

theorem check_binOp_iff {right : Code} :
    check allowed (.binOp op left right) = .ok () ↔
      op.isSafe = true ∧ check allowed left = .ok () ∧ check allowed right = .ok () := by
  rw [check]
  split <;> simp_all [Except.seq_eq_ok]

theorem check_unaryOp_iff {op : UnaryOp} {operand : Code} :
    check allowed (.unaryOp op operand) = .ok () ↔
      op.isSafe = true ∧ check allowed operand = .ok () := by
  rw [check]
  split <;> simp_all

theorem check_compare_iff {rest : List (CompareOp × Code)} :
    check allowed (.compare left rest) = .ok () ↔
      (∀ link ∈ rest, link.1.isSafe = true) ∧ check allowed left = .ok () ∧
        checkComparands allowed rest = .ok () := by
  rw [check]
  split
  · next op code found =>
      have member := mem_of_find?_eq_some found
      have unsafeOp := find?_some found
      constructor
      · nofun
      · rintro ⟨plain, _⟩
        simp [plain _ member] at unsafeOp
  · next none =>
      have plain : ∀ link ∈ rest, link.1.isSafe = true := by
        intro link member
        simpa using find?_eq_none.1 none link member
      rw [Except.seq_eq_ok]
      exact ⟨fun checked => ⟨plain, checked⟩, And.right⟩

theorem check_call_iff {arguments : List Code} {keywords : List (Keyword Code)} :
    check allowed (.call function arguments keywords) = .ok () ↔
      function.isHelper = true ∧ keywords = [] ∧ checkAll allowed arguments = .ok () := by
  rw [check]
  split
  · simp_all
  · split <;> simp_all

mutual

/-- The check accepts the expressions of the safe language. -/
theorem check_iff : ∀ code : Code, check allowed code = .ok () ↔ Safe allowed code
  | .constant value => ⟨fun _ => .constant value, fun _ => rfl⟩
  | .name id => by
    simp only [check, mem_helperFunctions_iff]
    split
    · next known => exact ⟨fun _ => .name id known, fun _ => rfl⟩
    · next unknown => exact ⟨nofun, fun | .name _ known => absurd known unknown⟩
  | .boolOp op values => by
    rw [check, checkAll_iff values]
    exact ⟨.boolOp op values, fun | .boolOp _ _ each => each⟩
  | .binOp op left right => by
    rw [check_binOp_iff, BinaryOp.isSafe_iff, check_iff left, check_iff right]
    exact ⟨fun ⟨plain, onLeft, onRight⟩ => .binOp op left right plain onLeft onRight,
      fun | .binOp _ _ _ plain onLeft onRight => ⟨plain, onLeft, onRight⟩⟩
  | .unaryOp op operand => by
    rw [check_unaryOp_iff, UnaryOp.isSafe_iff, check_iff operand]
    exact ⟨fun ⟨plain, inner⟩ => .unaryOp op operand plain inner,
      fun | .unaryOp _ _ plain inner => ⟨plain, inner⟩⟩
  | .compare left rest => by
    simp only [check_compare_iff, CompareOp.isSafe_iff, check_iff left, checkComparands_iff rest]
    exact ⟨fun ⟨plain, first, each⟩ => .compare left rest plain first each,
      fun | .compare _ _ plain first each => ⟨plain, first, each⟩⟩
  | .call function arguments keywords => by
    rw [check_call_iff, Code.isHelper_iff, checkAll_iff arguments]
    constructor
    · rintro ⟨⟨id, known, rfl⟩, rfl, each⟩
      exact .call id arguments known each
    · rintro (_ | _ | _ | _ | _ | _ | _ | _ | _ | ⟨id, _, known, each⟩)
      exact ⟨⟨id, known, rfl⟩, rfl, each⟩
  | .subscript value index => by
    rw [check, Except.seq_eq_ok, check_iff value, check_iff index]
    exact ⟨fun ⟨outer, inner⟩ => .subscript value index outer inner,
      fun | .subscript _ _ outer inner => ⟨outer, inner⟩⟩
  | .list items => by
    rw [check, checkAll_iff items]
    exact ⟨.list items, fun | .list _ each => each⟩
  | .dict entries => by
    rw [check, Except.seq_eq_ok, checkKeys_iff entries, checkValues_iff entries]
    exact ⟨fun ⟨keys, values⟩ => .dict entries keys values,
      fun | .dict _ keys values => ⟨keys, values⟩⟩
  | .named _ _ | .lambda _ _ | .ifExp _ _ _ | .set _ | .listComp _ _ | .setComp _ _
  | .dictComp _ _ _ | .generator _ _ | .await _ | .yield _ | .yieldFrom _ | .formatted _ _ _
  | .joined _ | .attr _ _ | .starred _ | .tuple _ | .slice _ _ _ => ⟨nofun, nofun⟩

theorem checkAll_iff : ∀ codes : List Code,
    checkAll allowed codes = .ok () ↔ ∀ code ∈ codes, Safe allowed code
  | [] => by simp [checkAll]
  | code :: rest => by
    rw [checkAll, Except.seq_eq_ok, check_iff code, checkAll_iff rest, forall_mem_cons]

theorem checkComparands_iff : ∀ links : List (CompareOp × Code),
    checkComparands allowed links = .ok () ↔ ∀ link ∈ links, Safe allowed link.2
  | [] => by simp [checkComparands]
  | (op, code) :: rest => by
    rw [checkComparands, Except.seq_eq_ok, check_iff code, checkComparands_iff rest,
      forall_mem_cons]

theorem checkKeys_iff : ∀ entries : List (Option Code × Code),
    checkKeys allowed entries = .ok () ↔
      ∀ entry ∈ entries, ∀ key, entry.1 = some key → Safe allowed key
  | [] => by simp [checkKeys]
  | (none, value) :: rest => by
    rw [checkKeys, checkKeys_iff rest, forall_mem_cons]
    simp
  | (some key, value) :: rest => by
    rw [checkKeys, Except.seq_eq_ok, check_iff key, checkKeys_iff rest, forall_mem_cons]
    simp

theorem checkValues_iff : ∀ entries : List (Option Code × Code),
    checkValues allowed entries = .ok () ↔ ∀ entry ∈ entries, Safe allowed entry.2
  | [] => by simp [checkValues]
  | (key, value) :: rest => by
    rw [checkValues, Except.seq_eq_ok, check_iff value, checkValues_iff rest, forall_mem_cons]

end

/-! ## What no accepted expression holds -/

namespace Code

def children : Code → List Code
  | constant _ | name _ => []
  | boolOp _ values => values
  | named target value => [target, value]
  | binOp _ left right => [left, right]
  | unaryOp _ operand => [operand]
  | lambda parameters body => parameters.filterMap Parameter.default? ++ [body]
  | ifExp test body orelse => [test, body, orelse]
  | dict entries => entries.filterMap Prod.fst ++ entries.map Prod.snd
  | set items => items
  | listComp item clauses | setComp item clauses | generator item clauses =>
    item :: clauses.flatMap fun clause => clause.target :: clause.source :: clause.conditions
  | dictComp key value clauses =>
    key :: value ::
      clauses.flatMap fun clause => clause.target :: clause.source :: clause.conditions
  | await value | yieldFrom value | starred value | attr value _ => [value]
  | yield value => value.toList
  | compare left rest => left :: rest.map Prod.snd
  | call function arguments keywords => function :: (arguments ++ keywords.map Keyword.value)
  | formatted value _ spec => value :: spec.toList
  | joined parts => parts
  | subscript value index => [value, index]
  | list items | tuple items => items
  | slice lower upper step => lower.toList ++ upper.toList ++ step.toList

/-- An expression is another one or stands inside it, at any depth. -/
def Inside : Code → Code → Prop := Relation.ReflTransGen fun inner outer => inner ∈ outer.children

/-- Whether an expression is of a kind that generated expressions must not hold: access to an
attribute, an anonymous function, a comprehension, a formatted string, an assignment, a starred
item, a slice, a tuple, a set, a condition, or something that suspends a computation. -/
def isForbidden : Code → Bool
  | attr _ _ | lambda _ _ | listComp _ _ | setComp _ _ | dictComp _ _ _ | generator _ _
  | formatted _ _ _ | joined _ | named _ _ | starred _ | slice _ _ _ | tuple _ | set _
  | ifExp _ _ _ | await _ | yield _ | yieldFrom _ => true
  | _ => false

end Code

theorem Safe.child {code child : Code} (safe : Safe allowed code) (inside : child ∈ code.children) :
    Safe allowed child := by
  cases safe with
  | constant => cases inside
  | name => cases inside
  | boolOp _ _ each => exact each child inside
  | binOp _ left right _ onLeft onRight =>
    simp only [Code.children, mem_cons, not_mem_nil, or_false] at inside
    rcases inside with rfl | rfl
    · exact onLeft
    · exact onRight
  | unaryOp _ _ _ inner =>
    cases mem_singleton.1 inside
    exact inner
  | compare _ _ _ first each =>
    rcases mem_cons.1 inside with rfl | member
    · exact first
    · obtain ⟨link, among, rfl⟩ := mem_map.1 member
      exact each link among
  | subscript _ _ outer inner =>
    simp only [Code.children, mem_cons, not_mem_nil, or_false] at inside
    rcases inside with rfl | rfl
    · exact outer
    · exact inner
  | list _ each => exact each child inside
  | dict _ keys values =>
    rcases mem_append.1 inside with member | member
    · obtain ⟨entry, among, same⟩ := mem_filterMap.1 member
      exact keys entry among child same
    · obtain ⟨entry, among, rfl⟩ := mem_map.1 member
      exact values entry among
  | call function arguments known each =>
    rcases mem_cons.1 inside with rfl | member
    · exact .name function (.inr known)
    · exact each child (by simpa using member)

theorem Safe.inside {code part : Code} (safe : Safe allowed code) (inside : part.Inside code) :
    Safe allowed part := by
  induction inside using Relation.ReflTransGen.head_induction_on with
  | refl => exact safe
  | head step _ ih => exact ih.child step

/-- **The check accepts exactly the safe language,** and what it accepts holds nothing forbidden at
any depth. -/
theorem check_decides_safe (allowed : List Text) (code : Code) :
    (check allowed code = .ok () ↔ Safe allowed code) ∧
      (check allowed code = .ok () →
        ∀ part : Code, part.Inside code → part.isForbidden = false) := by
  refine ⟨check_iff code, fun accepted part inside => ?_⟩
  have safe : Safe allowed part := ((check_iff code).1 accepted).inside inside
  cases safe <;> rfl

end AgentFlow.Target
