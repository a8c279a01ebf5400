import AgentFlow.Json.Shape
import AgentFlow.Schema.Problem
import AgentFlow.Schema.Regex

/-!
# Checking schemas

A schema is a boolean or an object whose keywords obey the rules of the schema language.  The rules
are tried in the order of a table; keywords that hold schemas are checked by the whole table again.
-/

namespace AgentFlow.Schema

inductive Rule where
  | text
  | identifier
  | anchor
  | boolean
  | number
  | positiveNumber
  | count
  | pattern
  | array
  | textArray
  | textArrayMap
  | booleanMap
  | types
  | schema
  | schemaArray
  | schemaMap
  | patternMap
  | schemaOrArray
  | dependencyMap
deriving DecidableEq, Repr

/-- The keywords of a schema language with their rules, in the order in which they are checked. -/
abbrev Dialect := List (Text × Rule)

def coreKeywords : Dialect :=
  [("$id", .identifier), ("$schema", .text), ("$ref", .text), ("$anchor", .anchor),
    ("$dynamicRef", .text), ("$dynamicAnchor", .anchor), ("$vocabulary", .booleanMap),
    ("$comment", .text), ("$defs", .schemaMap)]

def applicatorKeywords : Dialect :=
  [("prefixItems", .schemaArray), ("items", .schema), ("contains", .schema),
    ("additionalProperties", .schema), ("properties", .schemaMap),
    ("patternProperties", .patternMap), ("dependentSchemas", .schemaMap),
    ("propertyNames", .schema), ("if", .schema), ("then", .schema), ("else", .schema),
    ("allOf", .schemaArray), ("anyOf", .schemaArray), ("oneOf", .schemaArray), ("not", .schema)]

def unevaluatedKeywords : Dialect :=
  [("unevaluatedItems", .schema), ("unevaluatedProperties", .schema)]

def numberKeywords : Dialect :=
  [("multipleOf", .positiveNumber), ("maximum", .number), ("exclusiveMaximum", .number),
    ("minimum", .number), ("exclusiveMinimum", .number)]

def sizeKeywords : Dialect :=
  [("maxLength", .count), ("minLength", .count), ("pattern", .pattern), ("maxItems", .count),
    ("minItems", .count), ("uniqueItems", .boolean), ("maxContains", .count),
    ("minContains", .count), ("maxProperties", .count), ("minProperties", .count),
    ("required", .textArray), ("dependentRequired", .textArrayMap)]

def validationKeywords : Dialect :=
  ("type", .types) :: ("enum", .array) :: (numberKeywords ++ sizeKeywords)

def descriptionKeywords : Dialect :=
  [("title", .text), ("description", .text), ("deprecated", .boolean), ("readOnly", .boolean),
    ("writeOnly", .boolean), ("examples", .array), ("format", .text), ("contentEncoding", .text),
    ("contentMediaType", .text), ("contentSchema", .schema)]

def formerKeywords : Dialect :=
  [("definitions", .schemaMap), ("dependencies", .dependencyMap), ("$recursiveAnchor", .anchor),
    ("$recursiveRef", .text)]

def currentDialect : Dialect :=
  coreKeywords ++ applicatorKeywords ++ unevaluatedKeywords ++ validationKeywords ++
    descriptionKeywords ++ formerKeywords

def seventhDescriptionKeywords : Dialect :=
  [("$id", .text), ("$schema", .text), ("$ref", .text), ("$comment", .text), ("title", .text),
    ("description", .text), ("readOnly", .boolean), ("writeOnly", .boolean), ("examples", .array)]

def seventhSizeKeywords : Dialect :=
  [("maxLength", .count), ("minLength", .count), ("pattern", .pattern),
    ("additionalItems", .schema), ("items", .schemaOrArray), ("maxItems", .count),
    ("minItems", .count), ("uniqueItems", .boolean), ("contains", .schema),
    ("maxProperties", .count), ("minProperties", .count), ("required", .textArray),
    ("additionalProperties", .schema), ("definitions", .schemaMap), ("properties", .schemaMap),
    ("patternProperties", .patternMap), ("dependencies", .dependencyMap),
    ("propertyNames", .schema)]

def seventhChoiceKeywords : Dialect :=
  [("enum", .array), ("type", .types), ("format", .text), ("contentMediaType", .text),
    ("contentEncoding", .text), ("if", .schema), ("then", .schema), ("else", .schema),
    ("allOf", .schemaArray), ("anyOf", .schemaArray), ("oneOf", .schemaArray), ("not", .schema)]

def seventhDialect : Dialect :=
  seventhDescriptionKeywords ++ numberKeywords ++ seventhSizeKeywords ++ seventhChoiceKeywords

def typeNames : List Text :=
  ["array", "boolean", "integer", "null", "number", "object", "string"]

def integer? : Json → Option Int
  | .int value => some value
  | .float value => value.toInt?
  | _ => none

def isNumber : Json → Bool
  | .int _ => true
  | .float _ => true
  | _ => false

/-- Whether a number is zero or less.  What is not a number at all is neither. -/
def isAtMostZero : Json → Bool
  | .int value => value ≤ 0
  | .float value => (value.negative || value.isZero) && !value.isNaN
  | _ => false

/-- Whether a text satisfies a condition, itself or without a line break at its end. -/
def upToLineBreak (accepts : Text → Bool) (t : Text) : Bool :=
  accepts t || accepts t.dropLineBreak

/-- Whether a text has a number sign nowhere but at its end. -/
def isIdentifierText (t : Text) : Bool :=
  let rest := t.dropWhile (· ≠ ('#' : CodePoint))
  rest.isEmpty || rest.length = 1

def identifierPattern : Text := "^[^#]*#?$"

def isAnchorText : Text → Bool
  | [] => false
  | c :: rest => c.startsPlainName && rest.all fun c => c.continuesPlainName || c = '-' || c = '.'

def anchorPattern : Text := "^[A-Za-z_][-A-Za-z0-9._]*$"

def here (complaint : Complaint) : List Violation := [⟨[], complaint⟩]

def checkText (further : Text → List Violation) : Json → List Violation
  | .str t => further t
  | value => here (.wrongType value ["string"])

def hasRepeated (items : List Json) : Bool := !items.Nodup

/-- The items of a list that are not texts, the first item having the given index. -/
def nonTexts (index : Nat) : List Json → List Violation
  | [] => []
  | .str _ :: rest => nonTexts (index + 1) rest
  | item :: rest => ⟨[.index index], .wrongType item ["string"]⟩ :: nonTexts (index + 1) rest

def checkTextArray : Json → List Violation
  | .arr items =>
    nonTexts 0 items ++ if hasRepeated items then here (.repeated (.arr items)) else []
  | value => here (.wrongType value ["array"])

def isTypeName : Json → Bool
  | .str name => name ∈ typeNames
  | _ => false

def isTypes : Json → Bool
  | .arr items => !items.isEmpty && items.all isTypeName && !hasRepeated items
  | value => isTypeName value

def checkEach (check : Json → List Violation) (entries : Entries) : List Violation :=
  entries.flatMap fun (key, value) => (check value).map (·.under (.key key))

def checkBoolean : Json → List Violation
  | .bool _ => []
  | value => here (.wrongType value ["boolean"])

def checkPattern (t : Text) : List Violation :=
  match Regex.defect? t with
  | none => []
  | some .malformed => here (.notPattern (.str t))
  | some defect => here (.unusablePattern defect)

/-- The violations of a value that may obey either of two rules, the second of which is tried if it
breaks the first.  A pattern that cannot be judged leaves no other chance. -/
def either (value : Json) (first second : List Violation) : List Violation :=
  if first.isEmpty then []
  else
    match (first ++ second).findSome? (·.complaint.patternDefect?) with
    | some defect => here (.unusablePattern defect)
    | none => if second.isEmpty then [] else here (.noneApplies value)

def checkPlain (rule : Rule) (value : Json) : List Violation :=
  match rule with
  | .text => checkText (fun _ => []) value
  | .identifier =>
    checkText (fun t =>
      if upToLineBreak isIdentifierText t then []
      else here (.mismatch value identifierPattern)) value
  | .anchor =>
    checkText (fun t =>
      if upToLineBreak isAnchorText t then [] else here (.mismatch value anchorPattern)) value
  | .boolean => checkBoolean value
  | .number => if isNumber value then [] else here (.wrongType value ["number"])
  | .positiveNumber =>
    if !isNumber value then here (.wrongType value ["number"])
    else if isAtMostZero value then here (.notAboveZero value)
    else []
  | .count =>
    match integer? value with
    | none => here (.wrongType value ["integer"])
    | some n => if n < 0 then here (.belowZero value) else []
  | .pattern => checkText checkPattern value
  | .array =>
    match value with
    | .arr _ => []
    | value => here (.wrongType value ["array"])
  | .textArray => checkTextArray value
  | .textArrayMap =>
    match value with
    | .obj entries => checkEach checkTextArray entries
    | value => here (.wrongType value ["object"])
  | .booleanMap =>
    match value with
    | .obj entries => checkEach checkBoolean entries
    | value => here (.wrongType value ["object"])
  | .types => if isTypes value then [] else here (.noneApplies value)
  | _ => []

theorem lookup_lt {key : Text} {value : Json} :
    ∀ {entries : Entries}, entries.lookup key = some value → sizeOf value < sizeOf entries
  | [], found => by simp at found
  | (k, v) :: rest, found => by
    by_cases same : key = k
    · subst same
      simp at found
      subst found
      simp
      omega
    · have later : rest.lookup key = some value := by
        have : (key == k) = false := by simp [same]
        simpa [List.lookup_cons, this] using found
      have smaller := lookup_lt later
      simp
      omega

mutual

def check (dialect : Dialect) (value : Json) : List Violation :=
  match value with
  | .bool _ => []
  | .obj entries => checkKeywords dialect entries dialect
  | value => here (.wrongType value ["object", "boolean"])
termination_by (sizeOf value, 0)

def checkKeywords (dialect : Dialect) (entries : Entries) (keywords : Dialect) :
    List Violation :=
  match keywords with
  | [] => []
  | (key, rule) :: rest =>
    match found : entries.lookup key with
    | none => checkKeywords dialect entries rest
    | some value =>
      have := lookup_lt found
      (checkRule dialect rule value).map (·.under (.key key)) ++
        checkKeywords dialect entries rest
termination_by (sizeOf entries, keywords.length)

def checkRule (dialect : Dialect) (rule : Rule) (value : Json) : List Violation :=
  match rule with
  | .schema => check dialect value
  | .schemaArray => checkArray dialect value
  | .schemaMap =>
    match value with
    | .obj entries => checkEntries dialect entries
    | value => here (.wrongType value ["object"])
  | .patternMap =>
    match value with
    | .obj entries =>
      checkEntries dialect entries ++ entries.flatMap fun (key, _) => checkPattern key
    | value => here (.wrongType value ["object"])
  | .schemaOrArray => either value (check dialect value) (checkArray dialect value)
  | .dependencyMap =>
    match value with
    | .obj entries => checkDependencies dialect entries
    | value => here (.wrongType value ["object"])
  | rule => checkPlain rule value
termination_by (sizeOf value, 1)

/-- The violations in a value that must be a list of schemas, at least of one. -/
def checkArray (dialect : Dialect) (value : Json) : List Violation :=
  match value with
  | .arr [] => here .empty
  | .arr items => checkItems dialect 0 items
  | value => here (.wrongType value ["array"])
termination_by (sizeOf value, 0)

def checkItems (dialect : Dialect) (index : Nat) (items : List Json) : List Violation :=
  match items with
  | [] => []
  | item :: rest =>
    (check dialect item).map (·.under (.index index)) ++ checkItems dialect (index + 1) rest
termination_by (sizeOf items, 0)

def checkEntries (dialect : Dialect) (entries : Entries) : List Violation :=
  match entries with
  | [] => []
  | (key, value) :: rest =>
    (check dialect value).map (·.under (.key key)) ++ checkEntries dialect rest
termination_by (sizeOf entries, 0)

def checkDependencies (dialect : Dialect) (entries : Entries) : List Violation :=
  match entries with
  | [] => []
  | (key, value) :: rest =>
    (either value (check dialect value) (checkTextArray value)).map (·.under (.key key)) ++
      checkDependencies dialect rest
termination_by (sizeOf entries, 0)

end

def dialectOf (entries : Entries) : Except ShapeFault Dialect :=
  match entries.get? "$schema" with
  | some (.str uri) =>
    if uri ∈ (["http://json-schema.org/draft-07/schema#",
        "http://json-schema.org/draft-07/schema"] : List Text) then .ok seventhDialect
    else .ok currentDialect
  | some value =>
    if !value.isKey then .error (.unhashable value.typeName)
    else if value.isVoid then .ok currentDialect
    else .error (.noAttribute value.typeName "decode")
  | none => .ok currentDialect

end AgentFlow.Schema
