import AgentFlow.Json.Value

/-!
# Reading values as sequences and dictionaries

Settings are read generously: a list stands for its items, a text for its characters, an object for
its keys, and a sequence of pairs for a dictionary.  Keys are told apart by value: the number one,
the double one and the boolean true are one key.
-/

namespace AgentFlow

inductive ShapeFault where
  | notIterable (type : Text)
  | pairLength (index length : Nat)
  | notPair (index : Nat)
  | unhashable (type : Text)
  | noAttribute (type member : Text)
deriving DecidableEq, Repr

def ShapeFault.message : ShapeFault → Text
  | notIterable type => "'" ++ type ++ "' object is not iterable"
  | pairLength index length =>
    "dictionary update sequence element #" ++ Text.ofNat index ++ " has length " ++
      Text.ofNat length ++ "; 2 is required"
  | notPair index =>
    "cannot convert dictionary update sequence element #" ++ Text.ofNat index ++ " to a sequence"
  | unhashable type => "unhashable type: '" ++ type ++ "'"
  | noAttribute type member => "'" ++ type ++ "' object has no attribute '" ++ member ++ "'"

namespace Json

/-- The items of a value: of a list its items, of a text its characters, of an object its keys. -/
def items? : Json → Option (List Json)
  | .arr items => some items
  | .str value => some (value.map fun c => .str [c])
  | .obj entries => some (entries.map fun entry => .str entry.1)
  | _ => none

def items (value : Json) : Except ShapeFault (List Json) :=
  match value.items? with
  | some items => .ok items
  | none => .error (.notIterable value.typeName)

/-- The number that a value counts as when it is used as a key. -/
def keyNumber? : Json → Option (Int ⊕ Binary64)
  | .bool value => some (.inl (if value then 1 else 0))
  | .int value => some (.inl value)
  | .float value =>
    match value.toInt? with
    | some n => some (.inl n)
    | none => some (.inr value)
  | _ => none

def sameKey (a b : Json) : Bool :=
  match keyNumber? a, keyNumber? b with
  | some m, some n => m = n
  | none, none => a = b
  | _, _ => false

def isKey : Json → Bool
  | .arr _ => false
  | .obj _ => false
  | _ => true

/-- Adds a key to keys, a known one keeping its place. -/
def addKey (keys : List Json) (key : Json) : Except ShapeFault (List Json) :=
  if !key.isKey then .error (.unhashable key.typeName)
  else if keys.any (sameKey key) then .ok keys
  else .ok (keys ++ [key])

def keySet (values : List Json) : Except ShapeFault (List Json) := values.foldlM addKey []

/-- The keys of a dictionary given as pairs, the first of them having the given index. -/
def pairKeys (keys : List Json) (index : Nat) : List Json → Except ShapeFault (List Json)
  | [] => .ok keys
  | item :: rest =>
    match item.items? with
    | none => .error (.notPair index)
    | some [key, _] => do
      let keys ← addKey keys key
      pairKeys keys (index + 1) rest
    | some parts => .error (.pairLength index parts.length)

def dictionaryKeys (value : Json) : Except ShapeFault (List Json) :=
  match value with
  | .obj entries => .ok (entries.map fun entry => .str entry.1)
  | value => do pairKeys [] 0 (← value.items)

/-- The entries of an object, or the fault that a value has no entries. -/
def entries (value : Json) : Except ShapeFault Entries :=
  match value with
  | .obj entries => .ok entries
  | value => .error (.noAttribute value.typeName "items")

/-- A value under a key, an absent value counting as the given one. -/
def orElse (value? : Option Json) (fallback : Json) : Json :=
  match value? with
  | some value => if value.isVoid then fallback else value
  | none => fallback

end Json

namespace Entries

/-- The value under a key, nothing and empty values counting as the given one. -/
def getOr (entries : Entries) (key : Text) (fallback : Json) : Json :=
  Json.orElse (entries.get? key) fallback

end Entries

end AgentFlow
