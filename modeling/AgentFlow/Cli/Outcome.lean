import AgentFlow.Console.Markup
import AgentFlow.Error
import AgentFlow.Files.Directory

/-!
# How a run ends

A run ends with an exit code, with what has been written to standard output and standard error, and
sometimes because something interrupted it.  Standard output takes only text that can be encoded;
standard error spells what cannot be.
-/

namespace AgentFlow.Cli

inductive Interruption where
  | breakdown (what : Breakdown)
  | file (fault : Files.Fault) (path : Text)
  | markup (fault : Console.MarkupFault)
  | unencodable (run : SurrogateRun) (advice : Text)
deriving Repr

def Interruption.message : Interruption → Text
  | breakdown what => what.message
  | file fault path => fault.message path
  | markup fault => fault.message
  | unencodable run advice => run.message ++ advice

structure Outcome where
  exit : Nat := 0
  output : Text := []
  errors : Text := []
  interruption : Option Interruption := none

namespace Outcome

def say (outcome : Outcome) (t : Text) : Outcome :=
  { outcome with errors := outcome.errors ++ t.escapeSurrogates }

def endWith (outcome : Outcome) (code : Nat) : Outcome := { outcome with exit := code }

def interrupt (outcome : Outcome) (cause : Interruption) : Outcome :=
  { outcome with exit := 1, interruption := some cause }

/-- Adds text to standard output, which interrupts the run if the text cannot be encoded. -/
def write (outcome : Outcome) (t : Text) (advice : Text) : Outcome :=
  match t.surrogateRun? with
  | some run => outcome.interrupt (.unencodable run advice)
  | none => { outcome with output := outcome.output ++ t }

/-- What is advised when text for the terminal cannot be encoded. -/
def terminalAdvice : Text :=
  "\n*** You may need to add PYTHONIOENCODING=utf-8 to your environment ***"

def display (outcome : Outcome) (t : Text) : Outcome := outcome.write t terminalAdvice

/-- Shows what comes of markup, which interrupts the run if it is wrong. -/
def displayMarked (outcome : Outcome) (marked : Except Console.MarkupFault Text) : Outcome :=
  match marked with
  | .ok t => outcome.display t
  | .error fault => outcome.interrupt (.markup fault)

/-- Goes on with a run unless it is interrupted. -/
def andThen (outcome : Outcome) (next : Outcome → Outcome) : Outcome :=
  if outcome.interruption.isSome then outcome else next outcome

end Outcome

end AgentFlow.Cli
