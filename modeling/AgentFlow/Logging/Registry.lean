import AgentFlow.Logging.Level

/-!
# Loggers

Loggers have names with dots, and a name cut at a dot is that of a parent.  A logger that is not set
up takes the level of the nearest parent that has one, and its records go to the nearest parent that
is set up; above all stands the root logger.  A record that nobody takes goes to standard error as
it is, if it is a warning or worse.
-/

namespace AgentFlow.Logging

/-! ## Names -/

/-- The names that a name given in reverse can be cut to, the longest first. -/
def cutsReversed : Text → List Text
  | [] => []
  | [_] => []
  | c :: d :: rest =>
    if c = '.' then (d :: rest).reverse :: cutsReversed rest else cutsReversed (d :: rest)

/-- The names of possible parents, the nearest first. -/
def parentNames (name : Text) : List Text := cutsReversed name.reverse

theorem length_lt_of_mem_cutsReversed {cut : Text} :
    ∀ {name : Text}, cut ∈ cutsReversed name → cut.length < name.length
  | [], h => by simp [cutsReversed] at h
  | [_], h => by simp [cutsReversed] at h
  | c :: d :: rest, h => by
    rw [cutsReversed] at h
    split at h
    · rcases List.mem_cons.1 h with rfl | h
      · simp
      · have := length_lt_of_mem_cutsReversed h
        simp only [List.length_cons]
        omega
    · have := length_lt_of_mem_cutsReversed h
      simp only [List.length_cons] at this ⊢
      omega

/-- A possible parent has a shorter name. -/
theorem length_lt_of_mem_parentNames {name cut : Text} (h : cut ∈ parentNames name) :
    cut.length < name.length := by
  simpa using length_lt_of_mem_cutsReversed h

/-- The known loggers above a name, the nearest first. -/
def lineage (known : List Text) (name : Text) : List Text :=
  match (parentNames name).attach.find? (·.val ∈ known) with
  | some ⟨parent, h⟩ =>
    have : parent.length < name.length := length_lt_of_mem_parentNames h
    parent :: lineage known parent
  | none => []
termination_by name.length

/-! ## Loggers -/

structure Stream where
  name : Text
  terminal : Bool
deriving DecidableEq, Repr

/-- How a logger writes: to a stream, or to whatever is standard error at the time, from a level on,
with colours or without. -/
structure Handler where
  stream : Option Stream
  level : Int
  colour : Bool

/-- A logger.  Only one that has never been set up passes records on to its parents. -/
structure Logger where
  level : Int := 0
  handler : Option Handler := none
  passesOn : Bool := true

structure Registry where
  loggers : List (Text × Logger) := []
  standardError : Stream

namespace Registry

def rootName : Text := "root"

/-- The name under which a logger is kept; the empty name is for the root logger. -/
def key (name : Text) : Text := if name.isEmpty then rootName else name

def initialRoot : Logger := { level := warningLevel }

def logger (registry : Registry) (name : Text) : Logger :=
  (registry.loggers.lookup (key name)).getD (if key name = rootName then initialRoot else {})

def put (registry : Registry) (name : Text) (changed : Logger) : Registry :=
  { registry with
    loggers := if (registry.loggers.lookup (key name)).isSome then
        registry.loggers.map fun (known, old) => (known, if known = key name then changed else old)
      else registry.loggers ++ [(key name, changed)] }

/-- Sets up a logger.  With a level that is none, it loses its handler all the same. -/
def setUp (registry : Registry) (name : Text) (level : Json) (stream : Option Stream) :
    Registry × Except LevelFault Logger :=
  let bare : Logger := { registry.logger name with handler := none, passesOn := false }
  match levelOf level with
  | .error fault => (registry.put name bare, .error fault)
  | .ok level =>
    let colour := (stream.getD registry.standardError).terminal
    let logger : Logger := { bare with level, handler := some { stream, level, colour } }
    (registry.put name logger, .ok logger)

def chain (registry : Registry) (name : Text) : List Logger :=
  if key name = rootName then [registry.logger name]
  else (name :: lineage (registry.loggers.map Prod.fst) name ++ [rootName]).map registry.logger

/-- The level from which records of a logger are taken: the first one in its chain that is not
zero. -/
def effectiveLevel (chain : List Logger) : Int :=
  match chain.find? (·.level ≠ 0) with
  | some logger => logger.level
  | none => 0

/-- The handlers that a record reaches. -/
def reached : List Logger → List Handler
  | [] => []
  | logger :: above => logger.handler.toList ++ (if logger.passesOn then reached above else [])

/-- What a record writes to which streams.  A record at level zero or below is never taken. -/
def writes (registry : Registry) (clock : Text) (record : Record) : List (Stream × Text) :=
  let chain := registry.chain record.logger
  if record.level ≤ 0 ∨ record.level < effectiveLevel chain then []
  else
    match reached chain with
    | [] =>
      if warningLevel ≤ record.level then [(registry.standardError, record.message ++ "\n")] else []
    | handlers =>
      (handlers.filter (·.level ≤ record.level)).map fun handler =>
        (handler.stream.getD registry.standardError, record.line handler.colour clock)

/-- Writes a record.  Its logger is known from then on. -/
def log (registry : Registry) (clock : Text) (record : Record) :
    Registry × List (Stream × Text) :=
  let record := { record with logger := key record.logger }
  let registry := registry.put record.logger (registry.logger record.logger)
  (registry, registry.writes clock record)

end Registry

end AgentFlow.Logging
