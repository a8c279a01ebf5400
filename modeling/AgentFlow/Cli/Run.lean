import AgentFlow.Cli.Job
import AgentFlow.Cli.Outcome
import AgentFlow.Compile
import AgentFlow.Console.Frame
import AgentFlow.Json.Printer
import AgentFlow.Logging.Level
import AgentFlow.Settings.Load

/-!
# Running the program

What the program does for a command line, as a plan: it is either done, or a file is to be saved and
the run ends in one of two ways.  Nothing is saved when compilation fails.
-/

namespace AgentFlow.Cli

open Outcome (say write)

/-- What a run depends on: the files, the settings, the time of day, and whether standard error is a
terminal with colours. -/
structure Surroundings where
  look : Text → Files.Entry
  settings : Settings
  clock : Text
  colour : Bool

/-- What is left to do. -/
inductive Plan where
  | done (outcome : Outcome)
  | save (path : Text) (content : Bytes) (saved : Outcome) (failed : Files.Fault → Outcome)

/-! ## Reports -/

def programLogger : Text := "workflow_codegen"

def Surroundings.logged (here : Surroundings) (verbose : Bool) (notes : List LogEvent) : Text :=
  let least := if verbose then LogLevel.debug else here.settings.logLevel
  (notes.filter fun note => least.number ≤ note.level.number).flatMap fun note =>
    Logging.Record.line here.colour here.clock ⟨note.logger, note.level.number, note.message⟩

def title : Error → Text
  | .malformed _ _ => "MalformedGraph"
  | .unknownKind _ _ => "UnknownNodeKind"
  | .expression _ _ _ => "InvalidExpression"
  | .schema _ _ => "InvalidSchema"
  | .breakdown _ => "Breakdown"

/-- What is said about an error: its kind, then each problem or its message.  In detail, a panel
follows. -/
def errorReport (verbose : Bool) (found : Error) : Text :=
  Console.printed ("❌ " ++ title found ++ ":") ++
    (match found with
      | .malformed problems _ =>
        problems.flatMap fun problem =>
          Console.printed (Console.withPictures ("  • " ++ problem.message))
      | found => Console.printed (Console.withPictures ("  " ++ found.message))) ++
    (if verbose then Console.panel (Console.sanitize (title found ++ ": " ++ found.message))
      else [])

/-- How a run ends with an error: it is reported, or it interrupts the run. -/
def Outcome.failWith (outcome : Outcome) (verbose : Bool) (found : Error) : Outcome :=
  match found with
  | .breakdown what => outcome.interrupt (.breakdown what)
  | found => (outcome.say (errorReport verbose found)).endWith 1

/-! ## Compiling and validating -/

def ownNote (level : LogLevel) (message : Text) : LogEvent :=
  { logger := programLogger, level, message }

def isReported : Error → Bool
  | .breakdown _ => false
  | _ => true

def compilePlan (here : Surroundings) (verbose : Bool) (file : Text) (output : Option Text) :
    Plan :=
  let (result, notes) := compileFileNoting here.look file here.settings
  let noted := say {} (here.logged verbose notes)
  match result, output with
  | .error found, _ =>
    let failed := ownNote .debug ("compilation of " ++ Files.normal file ++ " failed")
    let noted := if isReported found then noted.say (here.logged verbose [failed]) else noted
    .done (noted.failWith verbose found)
  | .ok source, none => .done (noted.write source [])
  | .ok source, some output =>
    let path := Files.normal output
    let failed (fault : Files.Fault) := noted.interrupt (.file fault path)
    match source.surrogateRun? with
    | some run => .save path [] (noted.interrupt (.unencodable run [])) failed
    | none =>
      let wrote := noted.say (here.logged verbose [ownNote .info ("wrote " ++ path)])
      .save path (Bytes.ofText source)
        (wrote.displayMarked
          ((Console.unmarked ("[green]✓[/green] Wrote " ++ path)).map Console.printed))
        failed

def validMarkup (graph : Workflow.Graph) (file : Text) : Text :=
  let name : Text := match graph.workflow.name with
    | some (c :: rest) => c :: rest
    | _ => Files.baseName file
  "[bold green]✓ " ++ name ++ "[/bold green]\n[dim]" ++
    Text.ofNat graph.nodes.length ++ " nodes, " ++ Text.ofNat graph.edges.length ++ " edges[/dim]"

def validateOutcome (here : Surroundings) (verbose : Bool) (file : Text) : Outcome :=
  let (result, notes) := checkedFileNoting here.look file
  let noted := say {} (here.logged verbose notes)
  match result with
  | .error found => noted.failWith verbose found
  | .ok graph =>
    noted.displayMarked ((Console.unmarked (validMarkup graph file)).map Console.panel)

/-! ## Settings -/

def settingGroups : List (Text × List Text) :=
  [("Layout", ["indent", "entrypoint_name", "input_class_name"]),
    ("Agent Defaults", ["default_model", "default_reasoning_effort", "default_reasoning_summary"]),
    ("Tools", ["file_search_max_results"]),
    ("Logging", ["log_level"])]

def variableName (name : Text) : Text := (Settings.variableStart ++ name).toUpper

def valueMarkup (settings : Settings) (name : Text) : Text :=
  match settings.value name with
  | .null => "[dim]not set[/dim]"
  | value => value.plain

def groupTable (settings : Settings) (group : Text) (names : List Text) :
    Except Console.MarkupFault Text := do
  let rows ← names.mapM fun name => do
    return [name, variableName name, ← Console.unmarked (valueMarkup settings name)]
  return Console.Table.printed
    { title := group, headings := ["Setting", "Env Variable", "Value"], rows }

def configOutcome (settings : Settings) : Format → Outcome
  | .json =>
    let groups := settingGroups.map fun (group, names) =>
      (group, Json.obj (names.map fun name => (name, settings.value name)))
    write {} ((Json.obj groups).pretty ++ "\n") []
  | .table =>
    settingGroups.foldl (fun outcome (group, names) =>
      outcome.andThen fun outcome =>
        outcome.displayMarked ((groupTable settings group names).map (· ++ "\n")))
      (Outcome.display {} (Console.panel "Workflow Codegen Configuration"))

/-! ## The program -/

def Stop.outcome : Stop → Outcome
  | help page => write {} page.text []
  | version => write {} (programName ++ ", version " ++ programVersion ++ "\n") []
  | noWords => (say {} (Page.text .program)).endWith 2
  | refused page fault => (say {} (fault.report page)).endWith 2

def Job.plan (job : Job) (here : Surroundings) (verbose : Bool) : Plan :=
  match job with
  | .compile file output => compilePlan here verbose file output
  | .validate file => .done (validateOutcome here verbose file)
  | .config format => .done (configOutcome here.settings format)

def plan (here : Surroundings) (words : List Text) : Plan :=
  match Request.ofWords words with
  | .error stop => .done stop.outcome
  | .ok request =>
    match request.job here.look with
    | .error fault => .done (Stop.outcome (.refused (.command request.command) fault))
    | .ok job => job.plan here request.verbose

def Plan.runIn (directory : Files.Directory) : Plan → Outcome × Files.Directory
  | done outcome => (outcome, directory)
  | save path content saved failed =>
    match directory.write path content with
    | .ok directory => (saved, directory)
    | .error fault => (failed fault, directory)

def runIn (directory : Files.Directory) (settings : Settings) (clock : Text) (words : List Text) :
    Outcome × Files.Directory :=
  (plan { look := directory.look, settings, clock, colour := false } words).runIn directory

end AgentFlow.Cli
