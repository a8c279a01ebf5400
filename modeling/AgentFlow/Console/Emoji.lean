import AgentFlow.Console.Emoji.Table
import AgentFlow.Text.Lowercase

/-!
# Pictures by code

A code between colons stands for a picture, in either case.  It can ask for a skin tone, and after a
hyphen for the form of the picture.  A code that stands for nothing stays with both of its colons,
so its second colon starts no other code.
-/

namespace AgentFlow.Console

open CodePoint (ofNat isBlank)

namespace Emoji

/-- A picture with its codes, and with those of its codes that can ask for a skin tone. -/
structure Entry where
  picture : Text
  codes : List Text
  toned : List Text

/-- A code as it is written in texts. -/
def spelled (code : Text) : Text :=
  code.map fun c =>
    if c = (' ' : CodePoint) then '_' else if c = ('\'' : CodePoint) then '’' else c.lowerAscii

def Entry.ofRow (row : Text) : Entry :=
  match row.splitOn ',' with
  | points :: codes =>
    { picture := (Text.splitOn '-' points).filterMap fun point =>
        point.hexValue?.map ofNat
      codes := (codes.takeWhile (· ≠ ("/" : Text))).map spelled
      toned := ((codes.dropWhile (· ≠ ("/" : Text))).drop 1).map spelled }
  | [] => ⟨[], [], []⟩

def entriesOf (table : Archive) : List Entry :=
  ((Text.ofChars table.unpack).splitOn ';').map Entry.ofRow

/-- The character that asks for the form of a picture in colours. -/
def pictureForm : CodePoint := ofNat 0xFE0F

/-- The character that asks for the form of a picture as text. -/
def textForm : CodePoint := ofNat 0xFE0E

def forms : List (Text × CodePoint) := [("-emoji", pictureForm), ("-text", textForm)]

def tones : List (Text × CodePoint) :=
  [("_light_skin_tone", ofNat 0x1F3FB),
    ("_medium-light_skin_tone", ofNat 0x1F3FC),
    ("_medium_skin_tone", ofNat 0x1F3FD),
    ("_medium-dark_skin_tone", ofNat 0x1F3FE),
    ("_dark_skin_tone", ofNat 0x1F3FF)]

/-- The first of some endings that a code has: the code without it, and what it asks for. -/
def ending? (endings : List (Text × CodePoint)) (code : Text) : Option (Text × CodePoint) :=
  (endings.find? fun (ending, _) => code.endsWith ending).map fun (ending, asked) =>
    (code.take (code.length - ending.length), asked)

/-- A picture in a skin tone: the tone follows its first character, in place of a form. -/
def inTone (tone : CodePoint) : Text → Text
  | [] => []
  | first :: rest =>
    first :: tone :: if rest.head? = some pictureForm then rest.drop 1 else rest

def picture? (entries : List Entry) (code : Text) : Option Text :=
  match entries.find? fun entry => code ∈ entry.codes || code ∈ entry.toned with
  | some entry => some entry.picture
  | none => do
    let (code, tone) ← ending? tones code
    let entry ← entries.find? fun entry => code ∈ entry.toned
    return inTone tone entry.picture

def shown (table : Archive) (code : Text) : Text :=
  let (name, form) : Text × Text := match ending? forms code with
    | some (name, form) => (name, [form])
    | none => (code, [])
  match picture? (entriesOf table) name.toLower with
  | some picture => picture ++ form
  | none => ":" ++ code ++ ":"

/-- Puts together what colons separate.  White space is in no code, and what follows the last colon
is none. -/
def showCodes (table : Archive) : List Text → Text
  | before :: code :: after :: rest =>
    if code.any isBlank then before ++ ":" ++ showCodes table (code :: after :: rest)
    else before ++ shown table code ++ showCodes table (after :: rest)
  | [before, last] => before ++ ":" ++ last
  | [only] => only
  | [] => []

end Emoji

def withPictures (t : Text) : Text := Emoji.showCodes Emoji.table (t.splitOn ':')

end AgentFlow.Console
