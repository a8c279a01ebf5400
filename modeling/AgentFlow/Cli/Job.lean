import AgentFlow.Cli.Arguments
import AgentFlow.Files.Directory

/-!
# What a command line asks for

A command line that has been read is checked against the files there are.  The value of an option is
checked first, then the argument, and last that nothing is left over.
-/

namespace AgentFlow.Cli

inductive Format where
  | json
  | table
deriving DecidableEq, Repr

inductive Job where
  | compile (file : Text) (output : Option Text)
  | validate (file : Text)
  | config (format : Format)
deriving DecidableEq, Repr

def Request.paths (request : Request) : List Text :=
  (request.given.value? .output).toList ++ request.given.arguments.take 1

namespace Request

def file (request : Request) (look : Text → Files.Entry) : Except UsageFault Text :=
  match request.given.arguments with
  | [] => .error .missingArgument
  | path :: extra =>
    match look path with
    | .absent _ => .error (.invalidFile path "does not exist.")
    | .directory => .error (.invalidFile path "is a directory.")
    | .file _ => if extra.isEmpty then .ok path else .error (.extraArguments extra)

def output (request : Request) (look : Text → Files.Entry) : Except UsageFault (Option Text) :=
  match request.given.value? .output with
  | none => .ok none
  | some path =>
    match look path with
    | .directory => .error (.invalidValue .output ("File " ++ path.shown ++ " is a directory."))
    | _ => .ok (some path)

def format (request : Request) : Except UsageFault Format :=
  match request.given.value? .format with
  | none => .ok .table
  | some name =>
    if name = "json" then .ok .json
    else if name = "table" then .ok .table
    else .error (.invalidValue .format (name.shown ++ " is not one of 'json', 'table'."))

def job (request : Request) (look : Text → Files.Entry) : Except UsageFault Job :=
  match request.command with
  | .compile => do
    let output ← request.output look
    return .compile (← request.file look) output
  | .validate => do return .validate (← request.file look)
  | .config => do
    let format ← request.format
    if request.given.arguments.isEmpty then return .config format
    else .error (.extraArguments request.given.arguments)

end Request

end AgentFlow.Cli
