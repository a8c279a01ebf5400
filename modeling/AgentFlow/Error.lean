import AgentFlow.Expr.Fault
import AgentFlow.Json.Shape
import AgentFlow.Layout.Literal
import AgentFlow.Schema.Problem
import AgentFlow.Text.Encoding
import AgentFlow.Workflow.Definition

/-!
# Errors

A workflow is rejected for problems of its document or its graph, for a node of an unknown kind, for
an expression, or for a schema.  Below these there are breakdowns: conversions that fail on data
that none of the checks covers.
-/

namespace AgentFlow

open Workflow

/-- A problem of a workflow document or graph. -/
inductive Problem where
  | unreadableFile (path reason : Text)
  | unreadableJson (what : Text)
  | unsupportedPayload (type : Text)
  | notAnObject
  | nonFinite (path : List Decode.Step) (value : Binary64)
  | issue (issue : Decode.Issue)
  | duplicateNode (id : Text)
  | missingEntry (id : Text)
  | entryNotStart (id : Text) (kind : Kind)
  | undeclaredTextField (name : Text)
  | unknownSource (edge : Edge)
  | unknownTarget (edge : Edge)
  | repeatedTag (id : Text) (count : Nat) (tag : Tag)
  | noCases (id : Text)
  | missingTag (id : Text) (kind : Kind) (tag : Tag)
  | invalidTag (edge : Edge) (kind : Kind)
  | unreachable (id entry : Text)
  | cycle (path : List Text)
  | unknownNode (id : Text)
  | unsupportedKind (id kind : Text)
  | reentered (id : Text)
  | reachedTwice (id : Text)
  | conflictingDeclaration (key : Text)
  | toolNameClash (name : Text)
  | toolSignatures (name : Text)
  | parameterName (tool name : Text)
  | unknownParameter (tool name : Text)
deriving DecidableEq, Repr

def Problem.message : Problem → Text
  | unreadableFile path reason => "Cannot read workflow file " ++ path ++ ": " ++ reason
  | unreadableJson what => "Invalid workflow JSON payload: " ++ what
  | unsupportedPayload type =>
    "Unsupported payload type " ++ type ++ "; expected str or Mapping"
  | notAnObject => "Workflow payload must be a JSON object"
  | nonFinite path value =>
    Decode.pathText path ++ ": " ++ value.toText ++ " is not a finite number"
  | issue found => found.message
  | duplicateNode id => "Duplicate node id '" ++ id ++ "'"
  | missingEntry id => "Entry node '" ++ id ++ "' does not exist"
  | entryNotStart id kind =>
    "Entry node '" ++ id ++ "' must be a start node, found '" ++ kind.text ++ "'"
  | undeclaredTextField name =>
    "input_text_field '" ++ name ++ "' is not declared in input_schema"
  | unknownSource edge =>
    "Edge " ++ edge.describe ++ " starts at unknown node '" ++ edge.source ++ "'"
  | unknownTarget edge =>
    "Edge " ++ edge.describe ++ " points to unknown node '" ++ edge.target ++ "'"
  | repeatedTag id count tag =>
    "Node '" ++ id ++ "' has " ++ Text.ofNat count ++ " outgoing edges tagged '" ++ tag.text ++ "'"
  | noCases id => "If node '" ++ id ++ "' has no cases"
  | missingTag id kind tag =>
    "Node '" ++ id ++ "' (" ++ kind.text ++ ") is missing an outgoing '" ++ tag.text ++ "' edge"
  | invalidTag edge kind =>
    "Edge " ++ edge.describe ++ " has tag '" ++ edge.tag.text ++ "' not valid for " ++ kind.text ++
      " node"
  | unreachable id entry =>
    "Node '" ++ id ++ "' is not reachable from entry node '" ++ entry ++ "'"
  | cycle path => "Unlabeled cycle: " ++ Text.join " -> " path
  | unknownNode id => "Unknown node id '" ++ id ++ "'"
  | unsupportedKind id kind => "Node '" ++ id ++ "' has unsupported kind '" ++ kind ++ "'"
  | reentered id =>
    "Node '" ++ id ++ "' is re-entered from inside a nested loop body; " ++
      "only the innermost While may be continued"
  | reachedTwice id =>
    "Node '" ++ id ++ "' is reached along more than one path; " ++
      "branches may only converge on an end node"
  | conflictingDeclaration key => "Conflicting global declarations for '" ++ key ++ "'"
  | toolNameClash name => "Function tool name '" ++ name ++ "' clashes with a generated name"
  | toolSignatures name =>
    "Function tool '" ++ name ++ "' is defined with different signatures"
  | parameterName tool name =>
    "Function tool '" ++ tool ++ "' has invalid parameter name '" ++ name ++ "'"
  | unknownParameter tool name =>
    "Function tool '" ++ tool ++ "' has no parameter '" ++ name ++ "'"

/-- A conversion that fails underneath the checks of the compiler. -/
inductive Breakdown where
  | numeral (fault : NumeralFault)
  | symbolBase (base : Text)
  | literal (fault : Literal.Fault)
  | shape (fault : ShapeFault)
  | encoding (fault : EncodingFault)
  | pattern (defect : Schema.Regex.Defect)
deriving Repr

def Breakdown.message : Breakdown → Text
  | numeral fault => fault.message
  | symbolBase base => "Symbol base " ++ base.shown ++ " is not a valid identifier"
  | literal fault => fault.message
  | shape fault => fault.message
  | encoding fault => fault.message
  | pattern defect => defect.message

inductive Error where
  | malformed (problems : List Problem) (nodeId : Option Text)
  | unknownKind (kind : Text) (nodeId : Option Text)
  | expression (fault : Expr.Fault) (source : Option Text) (nodeId : Option Text)
  | schema (context : Text) (problem : Schema.Problem)
  | breakdown (breakdown : Breakdown)
deriving Repr

namespace Error

/-- A single problem that concerns no particular node. -/
def problem (found : Problem) : Error := malformed [found] none

def problemOf (id : Text) (found : Problem) : Error := malformed [found] (some id)

def message : Error → Text
  | malformed problems _ => Text.unlines (problems.map Problem.message)
  | unknownKind kind nodeId =>
    "Unknown node kind '" ++ kind ++ "'" ++
      (match nodeId with
        | some (c :: id) => " (node '" ++ (c :: id) ++ "')"
        | _ => [])
  | expression fault source nodeId =>
    (match nodeId with
      | some (c :: id) => (c :: id) ++ ": "
      | _ => []) ++ fault.message ++
      (match source with
        | some text => " in expression " ++ text.shown
        | none => [])
  | schema context found => found.message context
  | breakdown what => what.message

def ofFailure (failure : Expr.Failure) (source nodeId : Option Text) : Error :=
  match failure with
  | .fault fault => expression fault source nodeId
  | .numeral fault => breakdown (.numeral fault)

end Error

def liftShape {α : Type} : Except ShapeFault α → Except Error α
  | .ok value => .ok value
  | .error fault => .error (.breakdown (.shape fault))

end AgentFlow
