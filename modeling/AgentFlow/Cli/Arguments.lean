import AgentFlow.Cli.Page
import AgentFlow.Text.Quoted

/-!
# Reading a command line

A long option may have its value after an equals sign or in the next word; short ones may stand
together, the last of them with its value attached or in the next word.  Two dashes end the options.
The program's own options stand before the command; those of a command anywhere after it.
-/

namespace AgentFlow.Cli

/-! ## Similar words

Two words are similar when enough of their characters agree: the longest block that both hold, and
recursively what agrees before and after it, makes up at least three fifths of the two words.
-/

/-- The number of characters with which two words start alike. -/
def commonStart : Text → Text → Nat
  | a :: as, b :: bs => if a = b then commonStart as bs + 1 else 0
  | _, _ => 0

/-- A block of characters that two words share: where it starts in each, and its length. -/
structure Block where
  left : Nat
  right : Nat
  length : Nat

/-- The longest shared block; of several, the one that starts first in the first word, then in the
second. -/
def longestBlock (a b : Text) : Block :=
  (List.range a.length).foldl (fun best left =>
    (List.range b.length).foldl (fun best right =>
      let length := commonStart (a.drop left) (b.drop right)
      if best.length < length then ⟨left, right, length⟩ else best) best) ⟨0, 0, 0⟩

/-- The number of characters of two words that agree.  Each round splits the first word at a block,
so its length is fuel enough. -/
def agreement : Nat → Text → Text → Nat
  | 0, _, _ => 0
  | fuel + 1, a, b =>
    let block := longestBlock a b
    if block.length = 0 then 0
    else
      agreement fuel (a.take block.left) (b.take block.right) + block.length +
        agreement fuel (a.drop (block.left + block.length)) (b.drop (block.right + block.length))

def similar (a b : Text) : Bool :=
  3 * (a.length + b.length) ≤ 5 * (2 * agreement a.length a b)

def similarWords (candidates : List Text) (word : Text) : List Text :=
  Text.sort (candidates.filter (similar · word))

/-! ## Faults of a command line

Why a command line is refused, and what is said about it.
-/

inductive UsageFault where
  | unknownOption (name : Text) (similar : List Text)
  | needsValue (name : Text)
  | takesNoValue (name : Text)
  | missingCommand
  | unknownCommand (name : Text) (similar : List Text)
  | missingArgument
  | invalidFile (path : Text) (reason : Text)
  | invalidValue (switch : Switch) (reason : Text)
  | extraArguments (arguments : List Text)
deriving DecidableEq, Repr

/-- Words to choose from instead of one that is not known. -/
def suggestion : List Text → Text
  | [] => []
  | [word] => " Did you mean " ++ word.shown ++ "?"
  | words => " (Did you mean one of: " ++ Text.join ", " (words.map Text.shown) ++ "?)"

namespace UsageFault

def message : UsageFault → Text
  | unknownOption name similar => "No such option " ++ name.shown ++ "." ++ suggestion similar
  | needsValue name => "Option " ++ name.shown ++ " requires an argument."
  | takesNoValue name => "Option " ++ name.shown ++ " does not take a value."
  | missingCommand => "Missing command."
  | unknownCommand name similar => "No such command " ++ name.shown ++ "." ++ suggestion similar
  | missingArgument => "Missing argument 'WORKFLOW_FILE'."
  | invalidFile path reason =>
    "Invalid value for 'WORKFLOW_FILE': File " ++ path.shown ++ " " ++ reason
  | invalidValue switch reason => "Invalid value for " ++ switch.hint ++ ": " ++ reason
  | extraArguments arguments =>
    "Got unexpected extra argument" ++ (if arguments.length = 1 then [] else ("s" : Text)) ++
      " (" ++ Text.join " " arguments ++ ")"

def recallsUsage : UsageFault → Bool
  | needsValue _ | takesNoValue _ => false
  | _ => true

def report (fault : UsageFault) (page : Page) : Text :=
  (if fault.recallsUsage then
    page.usage ++ "\nTry '" ++ page.path ++ " --help' for help.\n\n"
  else []) ++ "Error: " ++ fault.message ++ "\n"

end UsageFault

/-! ## Arguments -/

structure Given where
  options : List (Switch × Text) := []
  arguments : List Text := []

namespace Given

def value? (given : Given) (switch : Switch) : Option Text :=
  (given.options.reverse.find? (·.1 = switch)).map Prod.snd

def addOption (given : Given) (switch : Switch) (value : Text) : Given :=
  { given with options := given.options ++ [(switch, value)] }

def addArguments (given : Given) (arguments : List Text) : Given :=
  { given with arguments := given.arguments ++ arguments }

end Given

/-- Options read from one word, and the option that still waits for its value, with the name it was
given by. -/
structure WordOptions where
  found : List (Switch × Text) := []
  waiting : Option (Switch × Text) := none

/-- The options of short names that stand together. -/
def readShort (page : Page) (found : List (Switch × Text)) :
    Text → Except UsageFault WordOptions
  | [] => .ok { found }
  | c :: rest =>
    let name : Text := ['-', c]
    match page.options.find? (·.short? = some name) with
    | none => .error (.unknownOption name [])
    | some switch =>
      if switch.value?.isNone then readShort page (found ++ [(switch, [])]) rest
      else if rest.isEmpty then .ok { found, waiting := some (switch, name) }
      else .ok { found := found ++ [(switch, rest)] }

def readWord (page : Page) (word : Text) : Except UsageFault WordOptions :=
  let name : Text := word.takeWhile (· ≠ ('=' : CodePoint))
  let attached : Option Text :=
    if name.length < word.length then some (word.drop (name.length + 1)) else none
  match page.options.find? (·.long = name) with
  | some switch =>
    match switch.value?.isSome, attached with
    | true, some value => .ok { found := [(switch, value)] }
    | true, none => .ok { waiting := some (switch, name) }
    | false, some _ => .error (.takesNoValue name)
    | false, none => .ok { found := [(switch, [])] }
  | none =>
    if word.startsWith "--" then
      .error (.unknownOption name (similarWords (page.options.map Switch.long) name))
    else readShort page [] (word.drop 1)

def holdsOptions (word : Text) : Bool := word.startsWith "-" && 1 < word.length

def readWords (page : Page) (given : Given) : List Text → Except UsageFault Given
  | [] => .ok given
  | word :: rest =>
    if word = "--" then .ok (given.addArguments rest)
    else if holdsOptions word then
      match readWord page word with
      | .error fault => .error fault
      | .ok { found, waiting } =>
        let given := { given with options := given.options ++ found }
        match waiting, rest with
        | none, rest => readWords page given rest
        | some (_, name), [] => .error (.needsValue name)
        | some (switch, _), value :: rest => readWords page (given.addOption switch value) rest
    else if page = .program then .ok (given.addArguments (word :: rest))
    else readWords page (given.addArguments [word]) rest

/-- A command line that is understood so far. -/
structure Request where
  verbose : Bool
  command : Command
  given : Given

/-- Why nothing is done: help or the version is asked for, or the command line is refused. -/
inductive Stop where
  | help (page : Page)
  | version
  | noWords
  | refused (page : Page) (fault : UsageFault)

def answerFirst (page : Page) (given : Given) : Except Stop Unit :=
  match given.options.find? fun (switch, _) => switch = .help || switch = .version with
  | some (.help, _) => .error (.help page)
  | some _ => .error .version
  | none => .ok ()

/-- The words of a page, unless help or the version is asked for among them. -/
def readPage (page : Page) (words : List Text) : Except Stop Given :=
  match readWords page {} words with
  | .error fault => .error (.refused page fault)
  | .ok given => do
    answerFirst page given
    return given

/-- Reads a command line.  A word that is no command is read once more as an option before it is
refused. -/
def Request.ofWords (words : List Text) : Except Stop Request := do
  if words.isEmpty then .error .noWords
  else
    let given ← readPage .program words
    match given.arguments with
    | [] => .error (.refused .program .missingCommand)
    | name :: rest =>
      match Command.ofName? name with
      | some command =>
        return { verbose := (given.value? .verbose).isSome, command,
                 given := ← readPage (.command command) rest }
      | none =>
        let _ ← readPage .program (name :: rest)
        .error (.refused .program
          (.unknownCommand name (similarWords (Command.all.map Command.name) name)))

end AgentFlow.Cli
