import AgentFlow.Error
import AgentFlow.Files.Directory
import AgentFlow.Settings.Basic
import AgentFlow.Settings.EnvFile
import AgentFlow.Text.Lowercase

/-!
# Where settings come from

A setting is taken from the values given directly, else from the environment, else from a file of
environment variables.  The case of names does not matter.
-/

namespace AgentFlow.Settings

def variableStart : Text := "workflow_codegen_"

/-- The value under a name, the name as it is written winning over other spellings. -/
def valueUnder {α : Type} (entries : List (Text × α)) (name : Text) : Option α :=
  match entries.lookup name with
  | some value => some value
  | none => (entries.find? (·.1.toLower = name)).map Prod.snd

/-- The value of a variable; of several spellings of its name the last one counts. -/
def variableValue (bound : List (Text × Option Text)) (name : Text) : Option Text :=
  (bound.reverse.find? (·.1.toLower = name)).bind Prod.snd

/-- The entries of all settings that some source gives. -/
def merge (values : Entries) (environment file : List (Text × Option Text)) : Entries :=
  fieldNames.filterMap fun name =>
    match valueUnder values name with
    | some value => some (name, value)
    | none =>
      match variableValue environment (variableStart ++ name) with
      | some value => some (name, .str value)
      | none =>
        (variableValue file (variableStart ++ name)).map fun value => (name, .str value)

def load (values : Entries) (environment : List (Text × Text)) (file : Option Text) :
    Decode.Checked Settings :=
  let given := environment.map fun (name, value) => (name, some value)
  decode (merge values given (match file with
    | some text => EnvFile.bindings environment text
    | none => []))

def fileName : Text := ".env"

/-- Loads settings where a file of variables may stand. -/
def loadIn (look : Text → Files.Entry) (values : Entries) (environment : List (Text × Text)) :
    Except Error (Decode.Checked Settings) :=
  match look fileName with
  | .file content =>
    match content.utf8 with
    | .ok text => .ok (load values environment (some text.unifyBreaks))
    | .error fault => .error (.breakdown (.encoding fault))
  | _ => .ok (load values environment none)

end AgentFlow.Settings
