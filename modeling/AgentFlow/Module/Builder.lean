import AgentFlow.Text.Basic

/-!
# Collecting the parts of a module

While a body is generated, the imports and declarations it needs are collected.  An import is kept
once; a declaration is kept under its key, and declaring the same thing again changes nothing.
-/

namespace AgentFlow.Module

/-! ## Sections of a generated module

Declarations at module level are grouped in sections.
-/

inductive Section where
  | clients
  | tools
  | guardrailBundles
  | agents
  | guardrailHelpers
deriving DecidableEq, Repr

namespace Section

def all : List Section := [clients, tools, guardrailBundles, agents, guardrailHelpers]

def name : Section → Text
  | clients => "clients"
  | tools => "tools"
  | guardrailBundles => "guardrail_bundles"
  | agents => "agents"
  | guardrailHelpers => "guardrail_helpers"

def ofName? (name : Text) : Option Section := all.find? (·.name = name)

def header? : Section → Option Text
  | clients => some "# Shared client for guardrails and file search"
  | tools => some "# Tool definitions"
  | guardrailBundles => some "# Guardrails definitions"
  | agents => none
  | guardrailHelpers => some "# Guardrails utils"

end Section

/-! ## Builders -/

structure Import where
  source : Text
  name : Text
deriving DecidableEq, Repr

structure Declaration where
  key : Text
  group : Section
  lines : List Text
deriving DecidableEq, Repr

/-- The imports and declarations collected so far, each in the order of their first occurrence. -/
structure Builder where
  imports : List Import := []
  declarations : List Declaration := []

namespace Builder

def addImport (builder : Builder) (wanted : Import) : Builder :=
  if wanted ∈ builder.imports then builder
  else { builder with imports := builder.imports ++ [wanted] }

/-- Adds a declaration, unless another one has its key. -/
def declare (builder : Builder) (declaration : Declaration) : Option Builder :=
  match builder.declarations.find? (·.key = declaration.key) with
  | none => some { builder with declarations := builder.declarations ++ [declaration] }
  | some known => if known = declaration then some builder else none

def inSection (builder : Builder) (group : Section) : List Declaration :=
  builder.declarations.filter (·.group = group)

end Builder

/-- The names imported from each module, modules and names in the order of first occurrence. -/
def groupImports (imports : List Import) : List (Text × List Text) :=
  imports.foldl (fun groups wanted =>
    if groups.any (·.1 = wanted.source) then
      groups.map fun (source, names) =>
        if source = wanted.source ∧ wanted.name ∉ names then (source, names ++ [wanted.name])
        else (source, names)
    else groups ++ [(wanted.source, [wanted.name])]) []

def importLines (imports : List Import) : List Text :=
  (groupImports imports).map fun (source, names) =>
    "from " ++ source ++ " import " ++ Text.join ", " names

/-- Lines without the blank ones at the end. -/
def dropTrailingBlanks (lines : List Text) : List Text :=
  (lines.reverse.dropWhile Text.isBlank).reverse

def definesBlock (lines : List Text) : Bool :=
  lines.any fun line =>
    line.startsWith "def " || line.startsWith "async def " || line.startsWith "class " ||
      line.startsWith "@"

/-- The lines of declarations after earlier ones: one empty line between two declarations, two
around functions and classes. -/
def appendDeclarations (written previous : List Text) : List Declaration → List Text
  | [] => written
  | declaration :: rest =>
    let current := dropTrailingBlanks declaration.lines
    let gap : List Text :=
      if written.isEmpty then []
      else if definesBlock previous || definesBlock current then [[], []]
      else [[]]
    appendDeclarations (written ++ gap ++ current) current rest

def declarationLines (declarations : List Declaration) : List Text :=
  appendDeclarations [] [] declarations ++ [[]]

end AgentFlow.Module
