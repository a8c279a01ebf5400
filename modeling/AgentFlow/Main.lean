import AgentFlow.Cli.Run
import Std.Time

/-!
# The program

Runs the plan for a command line with the files, the environment and the clock of the system.
-/

namespace AgentFlow

def faultOf : IO.Error → Files.Fault
  | .inappropriateType _ code _ => if code = 21 then .isDirectory else .notDirectory
  | .invalidArgument .. => .nameTooLong
  | _ => .missing

def lookUp (path : Text) : IO Files.Entry := do
  try
    let content ← IO.FS.readBinFile path.toDisplay
    return .file content.toList
  catch failure =>
    match faultOf failure with
    | .isDirectory => return .directory
    | fault => return .absent fault

def saveFile (path : Text) (content : Bytes) : IO (Option Files.Fault) := do
  try
    IO.FS.writeBinFile path.toDisplay ⟨content.toArray⟩
    return none
  catch failure => return some (faultOf failure)

def snapshot (paths : List Text) : IO (Text → Files.Entry) := do
  let entries ← paths.mapM fun path => do return (path, ← lookUp path)
  return fun path => (entries.lookup path).getD (.absent .missing)

def environment : IO (List (Text × Text)) := do
  let found ← Settings.fieldNames.mapM fun name => do
    let variableName := Cli.variableName name
    return (← IO.getEnv variableName.toDisplay).map fun value =>
      (variableName, Text.ofString value)
  return found.filterMap id

def twoDigits (n : Int) : Text := Text.ofChars (Binary64.paddedDigits 2 n.toNat)

def clock : IO Text := do
  let now ← Std.Time.PlainDateTime.now
  return Text.join ":" [twoDigits now.hour.val, twoDigits now.minute.val, twoDigits now.second.val]

def namedPaths (words : List Text) : List Text :=
  match Cli.Request.ofWords words with
  | .ok request => request.paths ++ request.paths.map Files.normal
  | .error _ => []

def carryOut : Cli.Plan → IO Cli.Outcome
  | .done outcome => return outcome
  | .save path content saved failed => do
    match ← saveFile path content with
    | none => return saved
    | some fault => return failed fault

def runWith (settings : Settings) (words : List Text) : IO UInt32 := do
  let look ← snapshot (namedPaths words)
  let errors ← IO.getStderr
  let here : Cli.Surroundings :=
    { look, settings, clock := ← clock, colour := ← errors.isTty }
  let outcome ← carryOut (Cli.plan here words)
  IO.print outcome.output.toDisplay
  errors.putStr outcome.errors.toDisplay
  match outcome.interruption with
  | some cause => errors.putStrLn cause.message.toDisplay
  | none => pure ()
  return UInt32.ofNat outcome.exit

def run (words : List Text) : IO UInt32 := do
  let look ← snapshot [Settings.fileName]
  match Settings.loadIn look [] (← environment) with
  | .ok (.valid settings) => runWith settings words
  | .ok (.invalid issues) => do
    issues.forM fun issue => IO.eprintln issue.message.toDisplay
    return 1
  | .error found => do
    IO.eprintln found.message.toDisplay
    return 1

end AgentFlow

def main (words : List String) : IO UInt32 := AgentFlow.run (words.map AgentFlow.Text.ofString)
