import AgentFlow.Decode.Issue
import AgentFlow.Schema.Regex.Basic

/-!
# What can be wrong with a schema

A schema breaks a rule of the schema language at some place in it, or it cannot be turned into a
record of the generated module.
-/

namespace AgentFlow.Schema

inductive Complaint where
  | wrongType (value : Json) (types : List Text)
  | noneApplies (value : Json)
  | belowZero (value : Json)
  | notAboveZero (value : Json)
  | repeated (value : Json)
  | empty
  | mismatch (value : Json) (pattern : Text)
  | notPattern (value : Json)
  | unusablePattern (defect : Regex.Defect)
deriving DecidableEq, Repr

def Complaint.message : Complaint → Text
  | wrongType value types =>
    value.shown ++ " is not of type " ++ Text.join ", " (types.map Text.shown)
  | noneApplies value => value.shown ++ " is not valid under any of the given schemas"
  | belowZero value => value.shown ++ " is less than the minimum of 0"
  | notAboveZero value => value.shown ++ " is less than or equal to the minimum of 0"
  | repeated value => value.shown ++ " has non-unique elements"
  | empty => "[] should be non-empty"
  | mismatch value pattern => value.shown ++ " does not match " ++ pattern.shown
  | notPattern value => value.shown ++ " is not a 'regex'"
  | unusablePattern defect => defect.message

def Complaint.patternDefect? : Complaint → Option Regex.Defect
  | unusablePattern defect => some defect
  | _ => none

structure Violation where
  path : List Decode.Step
  complaint : Complaint
deriving DecidableEq, Repr

def Violation.under (step : Decode.Step) (violation : Violation) : Violation :=
  { violation with path := step :: violation.path }

inductive Problem where
  | notObject
  | invalid (violation : Violation)
  | unusableField (name : Text)
deriving DecidableEq, Repr

/-- The wording of a problem of the schema that stands at a place called `context`. -/
def Problem.message (context : Text) : Problem → Text
  | notObject => context ++ ": schema must be a JSON object"
  | invalid violation =>
    context ++ ": " ++ Decode.pathText violation.path ++ ": " ++ violation.complaint.message
  | unusableField name => context ++ ": property '" ++ name ++ "' cannot be used as a model field"

end AgentFlow.Schema
