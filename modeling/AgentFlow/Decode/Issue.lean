import AgentFlow.Json.Value

/-!
# Issues of a record

Data that does not have the shape of a record is described by a list of issues, each with the path
to the offending part and its cause.
-/

namespace AgentFlow.Decode

inductive Step where
  | key (name : Text)
  | index (position : Nat)
deriving DecidableEq, Repr

def Step.text : Step → Text
  | key name => "." ++ name
  | index position => "[" ++ Text.ofNat position ++ "]"

def pathText (path : List Step) : Text := ('$' : CodePoint) :: path.flatMap Step.text

/-- What is wrong with a part of a record. -/
inductive Cause where
  | missing
  | extra
  | notText
  | notUnicode
  | tooShort
  | notDictionary
  | notList
  | notRecord (name : Text)
  | notTagged
  | noTag (discriminator : Text)
  | badTag (found discriminator : Text) (expected : List Text)
  | notOneOf (options : List Text)
  | notBoolean
  | unclearBoolean
  | notInteger
  | unclearInteger
  | notFinite
  | fractional
  | hugeInteger
  | below (least : Int)
  | above (most : Int)
  | refused (reason : Text)
deriving DecidableEq, Repr

/-- Options as a sentence lists them: quoted, with `or` before the last one. -/
def alternatives : List Text → Text
  | [] => []
  | [only] => "'" ++ only ++ "'"
  | [first, last] => "'" ++ first ++ "' or '" ++ last ++ "'"
  | first :: rest => "'" ++ first ++ "', " ++ alternatives rest

namespace Cause

def message : Cause → Text
  | missing => "Field required"
  | extra => "Extra inputs are not permitted"
  | notText => "Input should be a valid string"
  | notUnicode => "Input should be a valid string, unable to parse raw data as a unicode string"
  | tooShort => "String should have at least 1 character"
  | notDictionary => "Input should be a valid dictionary"
  | notList => "Input should be a valid list"
  | notRecord name => "Input should be a valid dictionary or instance of " ++ name
  | notTagged => "Input should be a valid dictionary or object to extract fields from"
  | noTag discriminator => "Unable to extract tag using discriminator '" ++ discriminator ++ "'"
  | badTag found discriminator expected =>
    "Input tag '" ++ found ++ "' found using '" ++ discriminator ++
      "' does not match any of the expected tags: " ++
      Text.join ", " (expected.map fun tag => "'" ++ tag ++ "'")
  | notOneOf options => "Input should be " ++ alternatives options
  | notBoolean => "Input should be a valid boolean"
  | unclearBoolean => "Input should be a valid boolean, unable to interpret input"
  | notInteger => "Input should be a valid integer"
  | unclearInteger => "Input should be a valid integer, unable to parse string as an integer"
  | notFinite => "Input should be a finite number"
  | fractional => "Input should be a valid integer, got a number with a fractional part"
  | hugeInteger => "Unable to parse input string as an integer, exceeded maximum size"
  | below least => "Input should be greater than or equal to " ++ Text.ofInt least
  | above most => "Input should be less than or equal to " ++ Text.ofInt most
  | refused reason => "Value error, " ++ reason

def code : Cause → Text
  | missing => "missing"
  | extra => "extra_forbidden"
  | notText => "string_type"
  | notUnicode => "string_unicode"
  | tooShort => "string_too_short"
  | notDictionary => "dict_type"
  | notList => "list_type"
  | notRecord _ => "model_type"
  | notTagged => "model_attributes_type"
  | noTag _ => "union_tag_not_found"
  | badTag _ _ _ => "union_tag_invalid"
  | notOneOf _ => "literal_error"
  | notBoolean => "bool_type"
  | unclearBoolean => "bool_parsing"
  | notInteger => "int_type"
  | unclearInteger => "int_parsing"
  | notFinite => "finite_number"
  | fractional => "int_from_float"
  | hugeInteger => "int_parsing_size"
  | below _ => "greater_than_equal"
  | above _ => "less_than_equal"
  | refused _ => "value_error"

end Cause

structure Issue where
  path : List Step
  cause : Cause
deriving DecidableEq, Repr

def Issue.message (issue : Issue) : Text := pathText issue.path ++ ": " ++ issue.cause.message

end AgentFlow.Decode
