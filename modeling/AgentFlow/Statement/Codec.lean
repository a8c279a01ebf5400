import AgentFlow.Json.Value
import AgentFlow.Statement.Basic

/-!
# Statement trees as JSON

A statement is an array whose first item names its form.  A value of any other shape is not a
statement; of several such values the one that would be written first is reported.
-/

namespace AgentFlow

def sequenceJson (statements : List Json) : Json := .arr [.str "seq", .arr statements]

mutual

def Statement.toJson : Statement → Json
  | .raw lines => .arr [.str "raw", .arr (lines.map .str)]
  | .block body => sequenceJson (statementsToJson body)
  | .branch arms none => .arr [.str "branch", .arr (armsToJson arms), .null]
  | .branch arms (some body) =>
    .arr [.str "branch", .arr (armsToJson arms), sequenceJson (statementsToJson body)]
  | .loop condition body =>
    .arr [.str "loop", .str condition, sequenceJson (statementsToJson body)]
  | .guard condition continuation fallback continueWhen =>
    .arr [.str "guard", .str condition, sequenceJson (statementsToJson continuation),
      sequenceJson (statementsToJson fallback), .bool continueWhen]
  | .ret value => .arr [.str "return", .str value]
  | .attempt body errorName handler =>
    .arr [.str "try", sequenceJson (statementsToJson body), .str errorName,
      sequenceJson (statementsToJson handler)]
termination_by structural statement => statement

def statementsToJson : List Statement → List Json
  | [] => []
  | statement :: rest => statement.toJson :: statementsToJson rest
termination_by structural statements => statements

def armsToJson : List (Text × List Statement) → List Json
  | [] => []
  | (condition, body) :: rest =>
    .arr [.str condition, sequenceJson (statementsToJson body)] :: armsToJson rest
termination_by structural arms => arms

end

def linesOfJson (items : List Json) : List Text :=
  items.filterMap fun item => match item with
    | .str line => some line
    | _ => none

mutual

def Statement.ofJson : Json → Except Json Statement
  | .arr [.str form, .arr items] =>
    if form = "raw" then .ok (.raw (linesOfJson items))
    else if form = "seq" then do return .block (← statementsOfJson items)
    else .error (.arr [.str form, .arr items])
  | .arr [.str form, .str value] =>
    if form = "return" then .ok (.ret value) else .error (.arr [.str form, .str value])
  | .arr [.str form, .arr arms, orelse] =>
    if form = "branch" then do
      let arms ← armsOfJson arms
      let orelse ← blockOrNone orelse
      return .branch arms orelse
    else .error (.arr [.str form, .arr arms, orelse])
  | .arr [.str form, .str condition, body] =>
    if form = "loop" then do return .loop condition (← Block.ofJson body)
    else .error (.arr [.str form, .str condition, body])
  | .arr [.str form, .str condition, continuation, fallback, .bool continueWhen] =>
    if form = "guard" then
      if continueWhen then do
        let continuation ← Block.ofJson continuation
        let fallback ← Block.ofJson fallback
        return .guard condition continuation fallback true
      else do
        let fallback ← Block.ofJson fallback
        let continuation ← Block.ofJson continuation
        return .guard condition continuation fallback false
    else .error (.arr [.str form, .str condition, continuation, fallback, .bool continueWhen])
  | .arr [.str form, body, .str errorName, handler] =>
    if form = "try" then do
      let body ← Block.ofJson body
      let handler ← Block.ofJson handler
      return .attempt body errorName handler
    else .error (.arr [.str form, body, .str errorName, handler])
  | value => .error value

def Block.ofJson : Json → Except Json Block
  | .arr [.str form, .arr items] =>
    if form = "seq" then statementsOfJson items
    else if form = "raw" then .ok [.raw (linesOfJson items)]
    else .error (.arr [.str form, .arr items])
  | value => do return [← Statement.ofJson value]

def blockOrNone : Json → Except Json (Option Block)
  | .null => .ok none
  | value => do return some (← Block.ofJson value)

def statementsOfJson : List Json → Except Json (List Statement)
  | [] => .ok []
  | item :: rest => do
    let statement ← Statement.ofJson item
    let statements ← statementsOfJson rest
    return statement :: statements

def armsOfJson : List Json → Except Json (List (Text × Block))
  | [] => .ok []
  | .arr [.str condition, body] :: rest => do
    let body ← Block.ofJson body
    let arms ← armsOfJson rest
    return (condition, body) :: arms
  | value :: _ => .error value

end

end AgentFlow
