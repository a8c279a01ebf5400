import AgentFlow.Json.Value

/-!
# Messages with fields

A field is a percent sign, flags, a least width, a precision, and a letter that says how an argument
is written.  Arguments are used in order, or by name when there is a single one that is an object.
Nothing results when fields and arguments do not agree.
-/

namespace AgentFlow.Logging

/-! ## Fields -/

structure FieldSpec where
  left : Bool := false
  plus : Bool := false
  blank : Bool := false
  alternative : Bool := false
  zeros : Bool := false
  width : Nat := 0
  precision : Option Nat := none

/-- The arguments that are left: a list, or an object whose entries are used by name. -/
inductive Arguments where
  | listed (values : List Json)
  | named (entries : Entries) (used : Bool)

namespace Arguments

def ofList : List Json → Arguments
  | [.obj (entry :: entries)] => named (entry :: entries) false
  | values => listed values

def next? : Arguments → Option (Json × Arguments)
  | listed (value :: rest) => some (value, listed rest)
  | listed [] => none
  | named entries used => if used then none else some (.obj entries, named entries true)

def isUsedUp : Arguments → Bool
  | listed values => values.isEmpty
  | named _ _ => true

end Arguments

/-! ## Writing a value -/

def FieldSpec.sign (spec : FieldSpec) (negative : Bool) : Text :=
  if negative then "-" else if spec.plus then "+" else if spec.blank then " " else []

def FieldSpec.place (spec : FieldSpec) (t : Text) : Text :=
  let blanks := Text.repeated (spec.width - t.length) " "
  if spec.left then t ++ blanks else blanks ++ t

/-- A number in its field: zeros go between the sign and the digits. -/
def FieldSpec.placeNumber (spec : FieldSpec) (sign digits : Text) : Text :=
  if spec.zeros && !spec.left then
    sign ++ Text.repeated (spec.width - (sign.length + digits.length)) "0" ++ digits
  else spec.place (sign ++ digits)

def integer? : Json → Option Int
  | .int n => some n
  | .bool b => some (if b then 1 else 0)
  | _ => none

def truncated? : Json → Option Int
  | .float x =>
    if x.isFinite then
      let (numerator, denominator) := x.ratio
      let magnitude : Int := numerator / denominator
      some (if x.negative then -magnitude else magnitude)
    else none
  | value => integer? value

def double? : Json → Option Binary64
  | .float x => some x
  | value => do
    let n ← integer? value
    let x := Binary64.ofRatio (n < 0) n.natAbs 1
    if x.isFinite then some x else none

def FieldSpec.writeInteger (spec : FieldSpec) (base : Nat) (mark : Text) (upper : Bool) (n : Int) :
    Text :=
  let digits := Nat.toDigits base n.natAbs
  let padded := List.replicate (spec.precision.getD 1 - digits.length) '0' ++ digits
  let shown := Text.ofChars (if upper then padded.map Char.toUpper else padded)
  spec.placeNumber (spec.sign (n < 0) ++ (if spec.alternative then mark else [])) shown

def trimZeros (digits : List Char) : List Char := (digits.reverse.dropWhile (· == '0')).reverse

/-- Digits with a point before the decimal places, if there are any or the point is wanted. -/
def withPoint (point : Bool) (whole places : List Char) : List Char :=
  whole ++ (if places.isEmpty && !point then [] else '.' :: places)

def powerText (power : Int) : List Char :=
  'e' :: (if power < 0 then '-' else '+') :: Binary64.paddedDigits 2 power.natAbs

def FieldSpec.magnitude (spec : FieldSpec) (letter : Char) (x : Binary64) : List Char :=
  let precision := spec.precision.getD 6
  if letter = 'f' then
    let (whole, places) := x.fixedPlaces precision
    withPoint spec.alternative whole places
  else if letter = 'e' then
    let (digits, power) := x.scientificPlaces precision
    withPoint spec.alternative (digits.take 1) (digits.drop 1) ++ powerText power
  else
    let precision := max precision 1
    let (digits, power) := x.scientificPlaces (precision - 1)
    let trim := if spec.alternative then id else trimZeros
    if -4 ≤ power ∧ power < precision then
      let (whole, places) := x.fixedPlaces ((precision : Int) - 1 - power).toNat
      withPoint spec.alternative whole (trim places)
    else withPoint spec.alternative (digits.take 1) (trim (digits.drop 1)) ++ powerText power

def FieldSpec.writeDouble (spec : FieldSpec) (letter : Char) (upper : Bool) (x : Binary64) : Text :=
  let shown :=
    if x.isNaN then ['n', 'a', 'n']
    else if !x.isFinite then ['i', 'n', 'f']
    else spec.magnitude letter x
  spec.placeNumber (spec.sign (x.negative && !x.isNaN))
    (Text.ofChars (if upper then shown.map Char.toUpper else shown))

def asciiOnly (t : Text) : Text :=
  t.flatMap fun c =>
    let n := c.toNat
    if n < 0x80 then [c]
    else if n < 0x100 then "\\x" ++ Text.ofHex 2 n
    else if n < 0x10000 then "\\u" ++ Text.ofHex 4 n
    else "\\U" ++ Text.ofHex 8 n

def FieldSpec.write (spec : FieldSpec) (letter : Char) (value : Json) : Option Text :=
  let cut (t : Text) : Text := match spec.precision with
    | some n => t.take n
    | none => t
  match letter with
  | 's' => some (spec.place (cut value.plain))
  | 'r' => some (spec.place (cut value.shown))
  | 'a' => some (spec.place (cut (asciiOnly value.shown)))
  | 'c' =>
    match value with
    | .str [c] => some (spec.place [c])
    | .str _ => none
    | value =>
      match integer? value with
      | some (.ofNat n) => if n < 0x110000 then some (spec.place [CodePoint.ofNat n]) else none
      | _ => none
  | 'd' | 'i' | 'u' => (truncated? value).map (spec.writeInteger 10 [] false)
  | 'o' => (integer? value).map (spec.writeInteger 8 "0o" false)
  | 'x' => (integer? value).map (spec.writeInteger 16 "0x" false)
  | 'X' => (integer? value).map (spec.writeInteger 16 "0X" true)
  | 'e' | 'f' | 'g' => (double? value).map (spec.writeDouble letter false)
  | 'E' | 'F' | 'G' => (double? value).map (spec.writeDouble letter.toLower true)
  | _ => none

/-! ## Reading a field -/

def FieldSpec.addFlag (spec : FieldSpec) (c : CodePoint) : FieldSpec :=
  if c = '-' then { spec with left := true }
  else if c = '+' then { spec with plus := true }
  else if c = ' ' then { spec with blank := true }
  else if c = '#' then { spec with alternative := true }
  else { spec with zeros := true }

def isFlag (c : CodePoint) : Bool :=
  c = '-' || c = '+' || c = ' ' || c = '#' || c = '0'

/-- Widths and precisions are smaller than this. -/
def largestCount : Nat := 0x80000000

def readCount (arguments : Arguments) (t : Text) : Option (Int × Arguments × Text) :=
  match t with
  | c :: rest =>
    if c = '*' then do
      let (value, arguments) ← arguments.next?
      let count ← integer? value
      if count.natAbs < largestCount then some (count, arguments, rest) else none
    else
      let digits := t.takeWhile CodePoint.isAsciiDigit
      let count : Nat := digits.foldl (fun n c => n * 10 + (c.toNat - 0x30)) 0
      if count < largestCount then some (count, arguments, t.drop digits.length) else none
  | [] => some (0, arguments, [])

def readName (t : Text) : Option Text × Text :=
  match t with
  | c :: rest =>
    if c = '(' then
      let name := rest.takeWhile (· ≠ (')' : CodePoint))
      (some name, rest.drop (name.length + 1))
    else (none, t)
  | [] => (none, t)

def FieldSpec.readSizes (spec : FieldSpec) (arguments : Arguments) (t : Text) :
    Option (FieldSpec × Arguments × Text) := do
  let (width, arguments, t) ← readCount arguments t
  let spec := { spec with width := width.natAbs, left := spec.left || width < 0 }
  match t with
  | c :: rest =>
    if c = '.' then
      let (precision, arguments, t) ← readCount arguments rest
      some ({ spec with precision := some precision.toNat }, arguments, t)
    else some (spec, arguments, t)
  | [] => some (spec, arguments, [])

/-- The text of a field after its percent sign, the characters it takes up, and the arguments after
it. -/
def readField (arguments : Arguments) (t : Text) : Option (Text × Nat × Arguments) := do
  let (name, unnamed) := readName t
  let flags := unnamed.takeWhile isFlag
  let spec := flags.foldl FieldSpec.addFlag {}
  let (spec, arguments, sized) ← spec.readSizes arguments (unnamed.drop flags.length)
  let letters := match sized with
    | c :: rest => if c = 'h' || c = 'l' || c = 'L' then rest else sized
    | [] => []
  match letters with
  | [] => none
  | letter :: rest =>
    let taken := t.length - rest.length
    if letter = '%' then if taken = 1 then some ("%", taken, arguments) else none
    else
      let letter ← letter.toChar?
      match name, arguments with
      | none, _ => do
        let (value, arguments) ← arguments.next?
        some (← spec.write letter value, taken, arguments)
      | some key, .named entries _ => do
        some (← spec.write letter (← entries.get? key), taken, .named entries true)
      | some _, .listed _ => none

/-- A message with its fields filled in, the first characters of which belong to a field that is
already written. -/
def fill (inside : Nat) (arguments : Arguments) : Text → Option Text
  | [] => if arguments.isUsedUp then some [] else none
  | c :: rest =>
    match inside with
    | inside + 1 => fill inside arguments rest
    | 0 =>
      if c = '%' then do
        let (field, taken, arguments) ← readField arguments rest
        return field ++ (← fill taken arguments rest)
      else do return c :: (← fill 0 arguments rest)

/-- A message with its arguments.  Without arguments percent signs mean nothing. -/
def withArguments (message : Text) (arguments : List Json) : Option Text :=
  if arguments.isEmpty then some message else fill 0 (.ofList arguments) message

end AgentFlow.Logging
