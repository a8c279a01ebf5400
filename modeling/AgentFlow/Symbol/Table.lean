import AgentFlow.Target.Keyword
import AgentFlow.Text.Basic

/-!
# Symbol tables

A symbol table hands out names for generated code, each of them once.  The first name for a base is
the base itself, unless it is taken; every later one is the base with the least number above the
last one used for it that gives a free name.
-/

namespace AgentFlow

/-- The names that cannot be used any more, the last number used for each base, and the names handed
out so far. -/
structure SymbolTable where
  taken : List Text := []
  counters : List (Text × Nat) := []
  allocated : List Text := []

namespace SymbolTable

/-- Whether names can be made from a base: a plain name that is not a reserved word. -/
def isBase (base : Text) : Bool := base.isPlainName && !Target.isKeyword base

def reserve (table : SymbolTable) (name : Text) : SymbolTable :=
  if name ∈ table.taken then table else { table with taken := table.taken ++ [name] }

def ofReserved (names : List Text) : SymbolTable := names.foldl reserve {}

def numbered (base : Text) (number : Nat) : Text := base ++ Text.ofNat number

/-- The least number above a given one that makes a free name from a base.  Among one more
candidates than there are taken names, one is free. -/
def nextNumber (taken : List Text) (base : Text) (last : Nat) : Nat :=
  (((List.range (taken.length + 1)).map (last + 1 + ·)).find? fun number =>
    numbered base number ∉ taken).getD (last + 1)

def take (table : SymbolTable) (base name : Text) (number : Nat) : SymbolTable where
  taken := table.taken ++ [name]
  counters := (base, number) :: table.counters
  allocated := table.allocated ++ [name]

def allocate (table : SymbolTable) (base : Text) : Option (Text × SymbolTable) :=
  if !isBase base then none
  else
    match table.counters.lookup base with
    | none =>
      if base ∉ table.taken then some (base, table.take base base 0)
      else
        let number := nextNumber table.taken base 0
        some (numbered base number, table.take base (numbered base number) number)
    | some last =>
      let number := nextNumber table.taken base last
      some (numbered base number, table.take base (numbered base number) number)

end SymbolTable

end AgentFlow
