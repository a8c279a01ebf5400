import AgentFlow.Number.Numeral
import AgentFlow.Number.Shortest
import AgentFlow.Text.Quoted

/-!
# JSON values

A number without fraction and exponent is an integer of any size; every other number is a double.
The integer one, the double one and the boolean true are three values.  An object keeps its entries
in the order of the document, one per key.
-/

namespace AgentFlow

inductive Json where
  | null
  | bool (value : Bool)
  | int (value : Int)
  | float (value : Binary64)
  | str (value : Text)
  | arr (items : List Json)
  | obj (entries : List (Text × Json))
deriving Inhabited, Repr

abbrev Entries := List (Text × Json)

namespace Json

instance : Coe Text Json := ⟨.str⟩

mutual

def eqb : Json → Json → Bool
  | .null, .null => true
  | .bool a, .bool b => a = b
  | .int a, .int b => a = b
  | .float a, .float b => a = b
  | .str a, .str b => a = b
  | .arr xs, .arr ys => eqbItems xs ys
  | .obj xs, .obj ys => eqbEntries xs ys
  | _, _ => false

def eqbItems : List Json → List Json → Bool
  | [], [] => true
  | x :: xs, y :: ys => eqb x y && eqbItems xs ys
  | _, _ => false

def eqbEntries : List (Text × Json) → List (Text × Json) → Bool
  | [], [] => true
  | (k, x) :: xs, (l, y) :: ys => decide (k = l) && eqb x y && eqbEntries xs ys
  | _, _ => false

end

mutual

theorem eqb_iff : ∀ a b : Json, eqb a b = true ↔ a = b
  | .null, b | .bool _, b | .int _, b | .float _, b | .str _, b => by cases b <;> simp [eqb]
  | .arr xs, b => by
    cases b <;> simp [eqb]
    exact eqbItems_iff xs _
  | .obj xs, b => by
    cases b <;> simp [eqb]
    exact eqbEntries_iff xs _

theorem eqbItems_iff : ∀ xs ys : List Json, eqbItems xs ys = true ↔ xs = ys
  | [], ys => by cases ys <;> simp [eqbItems]
  | x :: xs, ys => by
    cases ys with
    | nil => simp [eqbItems]
    | cons y ys => simp [eqbItems, eqb_iff x y, eqbItems_iff xs ys]

theorem eqbEntries_iff : ∀ xs ys : List (Text × Json), eqbEntries xs ys = true ↔ xs = ys
  | [], ys => by cases ys <;> simp [eqbEntries]
  | (k, x) :: xs, ys => by
    cases ys with
    | nil => simp [eqbEntries]
    | cons y ys =>
      obtain ⟨l, y⟩ := y
      simp [eqbEntries, eqb_iff x y, eqbEntries_iff xs ys]

end

instance : DecidableEq Json := fun a b => decidable_of_iff _ (eqb_iff a b)

def typeName : Json → Text
  | .null => "NoneType"
  | .bool _ => "bool"
  | .int _ => "int"
  | .float _ => "float"
  | .str _ => "str"
  | .arr _ => "list"
  | .obj _ => "dict"

/-- Whether a value counts as absent: null, false, zero, or empty. -/
def isVoid : Json → Bool
  | .null => true
  | .bool value => !value
  | .int value => value = 0
  | .float value => value.isZero
  | .str value => value.isEmpty
  | .arr items => items.isEmpty
  | .obj entries => entries.isEmpty

def get? (key : Text) : Json → Option Json
  | .obj entries => entries.lookup key
  | _ => none

mutual

def shown : Json → Text
  | .null => "None"
  | .bool value => if value then "True" else "False"
  | .int value => Text.ofInt value
  | .float value => value.toText
  | .str value => value.shown
  | .arr items => "[" ++ shownItems items ++ "]"
  | .obj entries => "\x7b" ++ shownEntries entries ++ "\x7d"

def shownItems : List Json → Text
  | [] => []
  | [item] => shown item
  | item :: next :: rest => shown item ++ ", " ++ shownItems (next :: rest)

def shownEntries : List (Text × Json) → Text
  | [] => []
  | [(key, item)] => key.shown ++ ": " ++ shown item
  | (key, item) :: next :: rest =>
    key.shown ++ ": " ++ shown item ++ ", " ++ shownEntries (next :: rest)

end

mutual

/-- A value and all values inside it, from the outside in. -/
@[simp] def parts : Json → List Json
  | .null => [.null]
  | .bool value => [.bool value]
  | .int value => [.int value]
  | .float value => [.float value]
  | .str value => [.str value]
  | .arr items => .arr items :: partsOf items
  | .obj entries => .obj entries :: partsOfEntries entries

@[simp] def partsOf : List Json → List Json
  | [] => []
  | item :: rest => parts item ++ partsOf rest

@[simp] def partsOfEntries : List (Text × Json) → List Json
  | [] => []
  | (_, value) :: rest => parts value ++ partsOfEntries rest

end

/-- Whether a value is no integer of more digits than can be written. -/
def isShort : Json → Bool
  | .int value => (Nat.toDigits 10 value.natAbs).length ≤ Numeral.digitLimit
  | _ => true

/-- Whether a value has a text: its integers are short. -/
def isWritable (value : Json) : Bool := value.parts.all isShort

def plain : Json → Text
  | .str value => value
  | value => value.shown

end Json

namespace Entries

def keys (entries : Entries) : List Text := entries.map Prod.fst

/-- Sets a key: a new key goes to the end, a known one keeps its place. -/
def insert (entries : Entries) (key : Text) (value : Json) : Entries :=
  if entries.any (·.1 = key) then
    entries.map fun entry => if entry.1 = key then (key, value) else entry
  else entries ++ [(key, value)]

def get? (entries : Entries) (key : Text) : Option Json := entries.lookup key

end Entries

end AgentFlow
