import AgentFlow.Text.Basic

/-!
# Commands and their help

The program has three commands.  Each of them, and the program itself, has a page of help: how it is
used, what it does, and which options it takes.
-/

namespace AgentFlow.Cli

inductive Command where
  | compile
  | config
  | validate
deriving DecidableEq, Repr

def Command.all : List Command := [.compile, .config, .validate]

def Command.name : Command → Text
  | compile => "compile"
  | config => "config"
  | validate => "validate"

def Command.ofName? (name : Text) : Option Command := Command.all.find? (·.name = name)

def Command.summary : Command → Text
  | compile => "Compile WORKFLOW_FILE into Python source."
  | config => "Show current configuration."
  | validate => "Validate the structure of WORKFLOW_FILE."

inductive Switch where
  | help
  | version
  | verbose
  | output
  | format
deriving DecidableEq, Repr

namespace Switch

def long : Switch → Text
  | help => "--help"
  | version => "--version"
  | verbose => "--verbose"
  | output => "--output"
  | format => "--format"

def short? : Switch → Option Text
  | verbose => some "-v"
  | output => some "-o"
  | format => some "-f"
  | _ => none

def value? : Switch → Option Text
  | output => some "FILE"
  | format => some "[json|table]"
  | _ => none

def purpose : Switch → Text
  | help => "Show this message and exit."
  | version => "Show the version and exit."
  | verbose => "Show debug logs and full error tracebacks"
  | output => "Write the module here instead of stdout"
  | format => "Output format"

def hint (switch : Switch) : Text :=
  Text.join " / " ((switch.long :: switch.short?.toList).map fun name =>
    ("'" : Text) ++ name ++ "'")

def heading (switch : Switch) : Text :=
  Text.join ", " (switch.short?.toList ++ [switch.long]) ++
    (match switch.value? with
      | some value => " " ++ value
      | none => [])

end Switch

/-- A page of help: that of the program or that of a command. -/
inductive Page where
  | program
  | command (command : Command)
deriving DecidableEq, Repr

def programName : Text := "workflow-codegen"

def programVersion : Text := "0.1.0"

namespace Page

def path : Page → Text
  | program => programName
  | command which => programName ++ " " ++ which.name

def usage (page : Page) : Text :=
  "Usage: " ++ page.path ++
    (match page with
      | program => " [OPTIONS] COMMAND [ARGS]..."
      | command .config => " [OPTIONS]"
      | command _ => " [OPTIONS] WORKFLOW_FILE")

def options : Page → List Switch
  | program => [.version, .verbose, .help]
  | command .compile => [.output, .help]
  | command .config => [.format, .help]
  | command .validate => [.help]

def description : Page → List Text
  | program =>
    ["Workflow Codegen - compile agent workflow graphs into Python modules.",
      "",
      "Commands:",
      "  compile   - Generate the Python module for a workflow JSON file",
      "  validate  - Check a workflow graph without writing anything",
      "  config    - Show the active code generation settings",
      "",
      "Examples:",
      "  workflow-codegen compile workflow.json -o workflow.py",
      "  workflow-codegen -v validate workflow.json"]
  | command .compile =>
    ["Compile WORKFLOW_FILE into Python source.",
      "",
      "Nothing is written when compilation fails."]
  | command .config =>
    ["Show current configuration.",
      "",
      "Displays settings loaded from WORKFLOW_CODEGEN_* environment variables and",
      ".env file."]
  | command .validate => ["Validate the structure of WORKFLOW_FILE."]

/-- Rows of two columns, the second one starting two blanks after the longest entry of the first. -/
def columns (rows : List (Text × Text)) : List Text :=
  let width := (rows.map (·.1.length)).foldl max 0
  rows.map fun (left, right) =>
    "  " ++ left ++ Text.repeated (width - left.length + 2) " " ++ right

def lines (page : Page) : List Text :=
  [page.usage, []] ++
    page.description.map (fun line => if line.isEmpty then [] else ("  " : Text) ++ line) ++
    ([[], "Options:"] : List Text) ++
    columns (page.options.map fun switch => (switch.heading, switch.purpose)) ++
    (match page with
      | program =>
        ([[], "Commands:"] : List Text) ++
          columns (Command.all.map fun command => (command.name, command.summary))
      | command _ => [])

def text (page : Page) : Text := page.lines.flatMap (· ++ "\n")

end Page

end AgentFlow.Cli
