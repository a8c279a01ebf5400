import AgentFlow.Json.Value

/-!
# Writing JSON text

Values are written in ASCII, on one line or with one item per line.  Doubles have their shortest
digits, so an integer and a double that are numerically equal stay apart.
-/

namespace AgentFlow.Json

/-- The text of a double, with the usual spellings of those that are not finite. -/
def floatText (x : Binary64) : Text :=
  if x.isNaN then "NaN"
  else if x.isFinite then x.toText
  else if x.negative then "-Infinity" else "Infinity"

mutual

def compact : Json → Text
  | .null => "null"
  | .bool value => if value then "true" else "false"
  | .int value => Text.ofInt value
  | .float value => floatText value
  | .str value => value.asciiQuoted
  | .arr items => "[" ++ compactItems items ++ "]"
  | .obj entries => "\x7b" ++ compactEntries entries ++ "\x7d"

def compactItems : List Json → Text
  | [] => []
  | [item] => compact item
  | item :: next :: rest => compact item ++ ", " ++ compactItems (next :: rest)

def compactEntries : List (Text × Json) → Text
  | [] => []
  | [(key, item)] => key.asciiQuoted ++ ": " ++ compact item
  | (key, item) :: next :: rest =>
    key.asciiQuoted ++ ": " ++ compact item ++ ", " ++ compactEntries (next :: rest)

end

/-- Lines moved two spaces to the right. -/
def deeper (lines : List Text) : List Text := lines.map ("  " ++ ·)

/-- Lines with a comma after the last one. -/
def followed : List Text → List Text
  | [] => []
  | [line] => [line ++ ","]
  | line :: next :: rest => line :: followed (next :: rest)

/-- Lines with a key before the first one. -/
def labelled (key : Text) : List Text → List Text
  | [] => []
  | line :: rest => (key.asciiQuoted ++ ": " ++ line) :: rest

mutual

/-- The lines of a value with one item per line, two spaces deeper than its container; the first
line stands where the value starts. -/
def prettyLines : Json → List Text
  | .arr (item :: items) => ("[" : Text) :: (prettyItems (item :: items) ++ ["]"])
  | .obj (entry :: entries) => ("\x7b" : Text) :: (prettyEntries (entry :: entries) ++ ["\x7d"])
  | value => [compact value]

def prettyItems : List Json → List Text
  | [] => []
  | [item] => deeper (prettyLines item)
  | item :: next :: rest => deeper (followed (prettyLines item)) ++ prettyItems (next :: rest)

def prettyEntries : List (Text × Json) → List Text
  | [] => []
  | [(key, item)] => deeper (labelled key (prettyLines item))
  | (key, item) :: next :: rest =>
    deeper (followed (labelled key (prettyLines item))) ++ prettyEntries (next :: rest)

end

def pretty (value : Json) : Text := Text.unlines (prettyLines value)

end AgentFlow.Json
