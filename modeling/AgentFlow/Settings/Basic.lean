import AgentFlow.Decode.Basic
import AgentFlow.Text.Identifier

/-!
# Settings of code generation

The options that shape a generated module, and how they are decoded.
-/

namespace AgentFlow

inductive LogLevel where
  | debug
  | info
  | warning
  | error
  | critical
deriving DecidableEq, Repr

namespace LogLevel

def names : List (Text × LogLevel) :=
  [("DEBUG", .debug), ("INFO", .info), ("WARNING", .warning), ("ERROR", .error),
    ("CRITICAL", .critical)]

def text : LogLevel → Text
  | debug => "DEBUG"
  | info => "INFO"
  | warning => "WARNING"
  | error => "ERROR"
  | critical => "CRITICAL"

def number : LogLevel → Nat
  | debug => 10
  | info => 20
  | warning => 30
  | error => 40
  | critical => 50

end LogLevel

structure Settings where
  indent : Nat := 2
  entrypointName : Text := "run_workflow"
  inputClassName : Text := "WorkflowInput"
  defaultModel : Text := "gpt-5"
  reasoningEffort : Option Text := some "low"
  reasoningSummary : Option Text := some "auto"
  fileSearchMaxResults : Int := 10
  logLevel : LogLevel := .info

namespace Settings

open Decode

def unit (settings : Settings) : Text := Text.repeated settings.indent " "

def decodeName : Decoder Text :=
  refine text fun name =>
    if name.isIdentifier then none else some (name.shown ++ " is not a valid Python identifier")

/-- Decodes a level; the case of its name does not matter. -/
def decodeLevel : Decoder LogLevel := fun value =>
  choice LogLevel.names (match value with
    | .str name => .str name.toUpper
    | value => value)

/-- Decodes settings from entries; what is not there has its default. -/
def decode (entries : Entries) : Checked Settings :=
  Settings.mk
    <$> withDefault "indent" 2 (fun value => Int.toNat <$> integerBetween 1 8 value) entries
    <*> withDefault "entrypoint_name" "run_workflow" decodeName entries
    <*> withDefault "input_class_name" "WorkflowInput" decodeName entries
    <*> withDefault "default_model" "gpt-5" text entries
    <*> withDefault "default_reasoning_effort" (some "low") (optional text) entries
    <*> withDefault "default_reasoning_summary" (some "auto") (optional text) entries
    <*> withDefault "file_search_max_results" 10 (integerFrom 1) entries
    <*> withDefault "log_level" .info decodeLevel entries

def fieldNames : List Text :=
  ["indent", "entrypoint_name", "input_class_name", "default_model", "default_reasoning_effort",
    "default_reasoning_summary", "file_search_max_results", "log_level"]

def optionalJson : Option Text → Json
  | some value => .str value
  | none => .null

def value (settings : Settings) (name : Text) : Json :=
  if name = "indent" then .int settings.indent
  else if name = "entrypoint_name" then .str settings.entrypointName
  else if name = "input_class_name" then .str settings.inputClassName
  else if name = "default_model" then .str settings.defaultModel
  else if name = "default_reasoning_effort" then optionalJson settings.reasoningEffort
  else if name = "default_reasoning_summary" then optionalJson settings.reasoningSummary
  else if name = "file_search_max_results" then .int settings.fileSearchMaxResults
  else if name = "log_level" then .str settings.logLevel.text
  else .null

def toEntries (settings : Settings) : Entries :=
  fieldNames.map (fun name => (name, settings.value name)) ++
    ([("indent_unit", .str settings.unit)] : Entries)

end Settings

end AgentFlow
