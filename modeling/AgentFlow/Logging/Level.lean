import AgentFlow.Json.Value
import AgentFlow.Text.Uppercase

/-!
# Levels of records

How important a record is, is a number; some numbers have names.  A level may be given by a number
or by a name in any case.
-/

namespace AgentFlow.Logging

def levelName (level : Int) : Text :=
  if level = 50 then "CRITICAL"
  else if level = 40 then "ERROR"
  else if level = 30 then "WARNING"
  else if level = 20 then "INFO"
  else if level = 10 then "DEBUG"
  else if level = 0 then "NOTSET"
  else "Level " ++ Text.ofInt level

def levelNames : List (String × Int) :=
  [("CRITICAL", 50), ("FATAL", 50), ("ERROR", 40), ("WARNING", 30), ("WARN", 30), ("INFO", 20),
    ("DEBUG", 10), ("NOTSET", 0)]

/-- The level from which a record is worth a line even when nobody listens. -/
def warningLevel : Int := 30

inductive LevelFault where
  | unknownName (name : Text)
  | notALevel (value : Json)

def LevelFault.message : LevelFault → Text
  | unknownName name => "Unknown level: " ++ (("Level " : Text) ++ name).shown
  | notALevel value => "Level not an integer or a valid string: " ++ value.shown

def levelOf : Json → Except LevelFault Int
  | .int level => .ok level
  | .bool isSet => .ok (if isSet then 1 else 0)
  | .str name =>
    match levelNames.find? (Text.ofString ·.1 = name.toUpper) with
    | some (_, level) => .ok level
    | none => .error (.unknownName name.toUpper)
  | value => .error (.notALevel value)

/-! ## Lines of a log

A record is written on a line with the time of day, the name of its logger, its level and its
message.  On a terminal the names of levels are coloured.
-/

structure Record where
  logger : Text
  level : Int
  message : Text

def colourCode? (level : Int) : Option Nat :=
  if level = 10 then some 36
  else if level = 20 then some 32
  else if level = 30 then some 33
  else if level = 40 then some 31
  else if level = 50 then some 35
  else none

def colouredName (level : Int) : Text :=
  match colourCode? level with
  | some code => "\x1b[" ++ Text.ofNat code ++ "m" ++ levelName level ++ "\x1b[0m"
  | none => levelName level

def Record.line (colour : Bool) (clock : Text) (record : Record) : Text :=
  clock ++ " | " ++ record.logger ++ " | " ++
    (if colour then colouredName record.level else levelName record.level) ++ " | " ++
    record.message ++ "\n"

end AgentFlow.Logging
