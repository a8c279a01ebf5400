import AgentFlow.Emit.Node
import AgentFlow.Linear.Walk

/-!
# Assembling modules

The text of a generated module: imports, the declarations of each section, the class of the input
record, and the entry point with its body.
-/

namespace AgentFlow.Module

open Emit

def isInputField (name : Text) : Bool :=
  name.isIdentifier && !Target.isKeyword name && !name.startsWith "_"

/-- The fields of the input class.  The import of the type of all values is added where a field
needs it. -/
def inputFields (required : List Json) : Entries → Build (List Schema.Field)
  | [] => return []
  | (name, schema) :: rest =>
    if isInputField name then do
      let type := Schema.typeName schema
      if type = Schema.anyType then addImport ⟨"typing", Schema.anyType⟩
      let others ← inputFields required rest
      return ⟨name, type, Json.str name ∈ required⟩ :: others
    else throw (.schema "input_schema" (.unusableField name))

def inputClass (context : Context) : Build Schema.RecordClass := do
  let schema := context.graph.workflow.inputSchema
  let required ← liftError (liftShape (Schema.requiredNames schema))
  let properties ← liftError (liftShape (schema.getOr "properties" (.obj [])).entries)
  return { name := context.settings.inputClassName, fields := ← inputFields required properties }

def baseImports : List Import := [⟨"pydantic", "BaseModel"⟩, ⟨"agents", "TResponseInputItem"⟩]

/-- The lines of a section, which is left out when it is empty. -/
def sectionLines (builder : Builder) (group : Section) : List Text :=
  match builder.inSection group with
  | [] => []
  | declarations => group.header?.toList ++ declarationLines declarations

/-- The lines of a body; a body without text does nothing. -/
def bodyLines (unit : Text) (body : Statement) : List Text :=
  let lines := body.render unit 1
  if lines.all Text.isBlank then lines ++ [Line.write unit ⟨1, "pass"⟩] else lines

def entryLine (settings : Settings) : Text :=
  "async def " ++ settings.entrypointName ++ "(" ++ workflowInput ++ ": " ++
    settings.inputClassName ++ "):"

def assemble (context : Context) (body : Statement) : Build Text := do
  let unit := context.unit
  let record ← inputClass context
  baseImports.forM addImport
  let builder := (← get).module
  let lines :=
    importLines builder.imports ++ [[]] ++ Section.all.flatMap (sectionLines builder) ++
      record.header unit ++ [([] : Text), ([] : Text), "# Main code entrypoint",
        entryLine context.settings] ++ bodyLines unit body
  return Text.unlines (lines.map Text.trimEnd) ++ "\n"

end AgentFlow.Module
