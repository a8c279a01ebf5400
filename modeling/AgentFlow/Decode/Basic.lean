import AgentFlow.Decode.Issue
import AgentFlow.Number.Numeral
import AgentFlow.Text.Encoding
import AgentFlow.Text.Uppercase

/-!
# Decoding records

Decoders for texts, numbers, lists, dictionaries, choices and records.  Decoding is lenient where
the meaning is clear: a boolean may be spelled as a word or as zero or one, and an integer as text
or as a double without fraction.  A text with surrogates is only accepted where any text is.
-/

namespace AgentFlow.Decode

/-! ## Checked data

Decoding gives a value or all issues found.  Combining two results keeps the issues of both, in
order, so that one pass over a record reports everything that is wrong with it.
-/

inductive Checked (α : Type) where
  | valid (value : α)
  | invalid (issues : List Issue)

namespace Checked

def map {α β : Type} (f : α → β) : Checked α → Checked β
  | valid value => valid (f value)
  | invalid issues => invalid issues

/-- Applies a decoded function to a decoded value, keeping all issues. -/
def apply {α β : Type} (f : Checked (α → β)) (x : Checked α) : Checked β :=
  match f, x with
  | valid f, valid value => valid (f value)
  | valid _, invalid issues => invalid issues
  | invalid issues, valid _ => invalid issues
  | invalid first, invalid second => invalid (first ++ second)

instance : Functor Checked where
  map := map

instance : Applicative Checked where
  pure := valid
  seq f x := apply f (x ())

def fail {α : Type} (cause : Cause) : Checked α := invalid [⟨[], cause⟩]

def under {α : Type} (step : Step) : Checked α → Checked α
  | valid value => valid value
  | invalid issues => invalid (issues.map fun issue => { issue with path := step :: issue.path })

def andThen {α β : Type} (x : Checked α) (next : α → Checked β) : Checked β :=
  match x with
  | valid value => next value
  | invalid issues => invalid issues

def all {α : Type} : List (Checked α) → Checked (List α)
  | [] => valid []
  | first :: rest => apply (map List.cons first) (all rest)

end Checked

abbrev Decoder (α : Type) := Json → Checked α

/-! ## Decoders -/

open Checked

def text : Decoder Text
  | .str value => valid value
  | _ => fail .notText

/-- Reads a text that has an encoding. -/
def reading {α : Type} (read : Text → Checked α) (t : Text) : Checked α :=
  if t.hasSurrogate then fail .notUnicode else read t

def nonEmptyText : Decoder Text := fun value =>
  (text value).andThen (reading fun t => if t.isEmpty then fail .tooShort else valid t)

def Step.entry (key : Text) : Step := .key key.replaceSurrogates

def anything : Decoder Json := valid

/-- Decodes null as nothing and everything else by a decoder. -/
def optional {α : Type} (decoder : Decoder α) : Decoder (Option α)
  | .null => valid none
  | value => (decoder value).map some

def list {α : Type} (decoder : Decoder α) : Decoder (List α)
  | .arr items => all (items.mapIdx fun i item => (decoder item).under (.index i))
  | _ => fail .notList

def dictionary {α : Type} (decoder : Decoder α) : Decoder (List (Text × α))
  | .obj entries =>
    all (entries.map fun (key, value) => ((decoder value).map (key, ·)).under (.entry key))
  | _ => fail .notDictionary

def object : Decoder Entries
  | .obj entries => valid entries
  | _ => fail .notDictionary

def choice {α : Type} (options : List (Text × α)) : Decoder α := fun value =>
  let wrong : Checked α := fail (.notOneOf (options.map Prod.fst))
  match value with
  | .str name => reading (fun name => ((options.lookup name).map valid).getD wrong) name
  | _ => wrong

def wordBoolean? (word : Text) : Option Bool :=
  let lower := word.map CodePoint.lowerAscii
  if lower ∈ (["0", "off", "f", "false", "n", "no"] : List Text) then some false
  else if lower ∈ (["1", "on", "t", "true", "y", "yes"] : List Text) then some true
  else none

def boolean : Decoder Bool
  | .bool value => valid value
  | .int value =>
    if value = 0 then valid false else if value = 1 then valid true else fail .unclearBoolean
  | .float value =>
    match value.toInt? with
    | some n => if n = 0 then valid false else if n = 1 then valid true else fail .unclearBoolean
    | none => fail .notBoolean
  | .str word =>
    reading (fun word => ((wordBoolean? word).map valid).getD (fail .unclearBoolean)) word
  | _ => fail .notBoolean

/-- The digits of a run in which single underscores may stand between digits. -/
def digitsWithUnderscores? (t : Text) : Option Text :=
  let groups := t.splitOn '_'
  if groups.all fun group => !group.isEmpty && group.all CodePoint.isAsciiDigit then
    some groups.flatten
  else none

/-- The integer that a text spells: white space around it, a sign, leading zeros, single underscores
between digits and a fraction of zeros are accepted. -/
def textInteger? (t : Text) : Option Int :=
  let body := t.withoutMargin
  let (negative, unsigned) : Bool × Text := match body with
    | sign :: rest =>
      if sign = '-' then (true, rest) else if sign = '+' then (false, rest) else (false, body)
    | [] => (false, body)
  let whole := unsigned.takeWhile (· ≠ ('.' : CodePoint))
  let fraction := unsigned.drop whole.length
  let zeros : Bool := match fraction with
    | [] => true
    | _ :: places => !places.isEmpty && places.all (· = ('0' : CodePoint))
  if zeros then
    (digitsWithUnderscores? whole).map fun digits =>
      let magnitude : Int := digits.foldl (fun n c => n * 10 + (c.toNat - 0x30)) (0 : Nat)
      if negative then -magnitude else magnitude
  else none

def integer : Decoder Int
  | .int value => valid value
  | .bool value => valid (if value then 1 else 0)
  | .float value =>
    match value.toInt? with
    | some n => if n.natAbs < 0x8000000000000000 then valid n else fail .hugeInteger
    | none => if value.isFinite then fail .fractional else fail .notFinite
  | .str t =>
    reading (fun t =>
      if Numeral.digitLimit < (Bytes.ofText t.withoutMargin).length then fail .hugeInteger
      else match textInteger? t with
        | some n => valid n
        | none => fail .unclearInteger) t
  | _ => fail .notInteger

def integerFrom (least : Int) : Decoder Int := fun value =>
  (integer value).andThen fun n => if n < least then fail (.below least) else valid n

def integerBetween (least most : Int) : Decoder Int := fun value =>
  (integerFrom least value).andThen fun n => if most < n then fail (.above most) else valid n

/-! ## Records -/

def required {α : Type} (name : Text) (decoder : Decoder α) (entries : Entries) : Checked α :=
  match entries.get? name with
  | some value => (decoder value).under (.key name)
  | none => (fail .missing).under (.key name)

/-- A field with a value to use when it is not there. -/
def withDefault {α : Type} (name : Text) (default : α) (decoder : Decoder α) (entries : Entries) :
    Checked α :=
  match entries.get? name with
  | some value => (decoder value).under (.key name)
  | none => valid default

/-- The name under which a field with two names is given, the first one winning. -/
def givenName (name other : Text) (entries : Entries) : Text :=
  if (entries.get? name).isNone && (entries.get? other).isSome then other else name

/-- Decodes a record from its entries; unknown entries are ignored. -/
def record {α : Type} (name : Text) (fields : Entries → Checked α) : Decoder α
  | .obj entries => fields entries
  | _ => fail (.notRecord name)

/-- Decodes a record from its entries; each unknown entry is an issue.  If a key has no encoding,
that is the only one. -/
def strictRecord {α : Type} (name : Text) (known : Entries → List Text)
    (fields : Entries → Checked α) : Decoder α
  | .obj entries =>
    let unknown := (Entries.keys entries).filter (· ∉ known entries)
    let extras : Checked Unit :=
      if unknown.isEmpty then valid () else invalid (unknown.map fun key => ⟨[.key key], .extra⟩)
    if unknown.any Text.hasSurrogate then fail .notUnicode
    else apply (map (fun value _ => value) (fields entries)) extras
  | _ => fail (.notRecord name)

/-- Decodes one of several records, chosen by the tag that an entry holds. -/
def tagged {α : Type} (discriminator : Text) (options : List (Text × Decoder α)) : Decoder α
  | .obj entries =>
    match Entries.get? entries discriminator with
    | none => fail (.noTag discriminator)
    | some tag =>
      let chosen? : Option (Text × Decoder α) := match tag with
        | .str name => options.find? (·.1 = name)
        | _ => none
      match chosen? with
      | some (name, decoder) => (decoder (.obj entries)).under (.key name)
      | none => fail (.badTag tag.plain.replaceSurrogates discriminator (options.map Prod.fst))
  | _ => fail .notTagged

def refine {α : Type} (decoder : Decoder α) (reason? : α → Option Text) : Decoder α := fun value =>
  (decoder value).andThen fun decoded =>
    match reason? decoded with
    | some reason => fail (.refused reason)
    | none => valid decoded

end AgentFlow.Decode
