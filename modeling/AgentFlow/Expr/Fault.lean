import AgentFlow.Expr.Token
import AgentFlow.Target.Rejection

/-!
# What can be wrong with an expression

Faults are found while reading an expression, resolving its names and checking the code it compiles
to.  A number whose text has no value, or too many digits, is a failure of another kind, which does
not say where in the expression the number stands.
-/

namespace AgentFlow

/-- A number that has no text, or a text that has no number. -/
inductive NumeralFault where
  | tooManyDigits (count : Nat)
  | unwritable
  | notInteger (text : Text)
  | notDecimal (text : Text)
deriving DecidableEq, Repr

def NumeralFault.message : NumeralFault → Text
  | tooManyDigits count => Numeral.tooManyDigits count
  | unwritable => Numeral.unwritable
  | notInteger text => "invalid literal for int() with base 10: " ++ text.shown.take 200
  | notDecimal text => "could not convert string to float: " ++ text.shown

namespace Expr

inductive Expected where
  | symbol (symbol : Symbol)
  | value
  | fieldName
  | objectKey
  | nonEmptyKey
  | finish
deriving DecidableEq, Repr

def Expected.message : Expected → Text
  | symbol s => "Expected '" ++ s.text ++ "'"
  | value => "Expected a value"
  | fieldName => "Expected a field name after '.'"
  | objectKey => "Expected an object key"
  | nonEmptyKey => "Object keys cannot be empty"
  | finish => "Unexpected trailing input"

/-- A fault of an expression.  Columns count from one. -/
inductive Fault where
  | empty
  | unexpectedCharacter (char : CodePoint) (column : Nat)
  | malformedEscape (column : Nat)
  | unknownEscape (char : CodePoint) (column : Nat)
  | unterminatedString (column : Nat)
  | expected (what : Expected) (column : Nat) (found : Option Text)
  | outOfRange (value : Binary64)
  | unknownFunction (name : Text)
  | argumentCount (name : Text)
  | unknownName (name : Text)
  | unknownInputField (key : Text)
  | undeclaredState (name : Text)
  | rejected (rendered : Text) (why : Target.Rejection)
deriving DecidableEq, Repr

def Fault.message : Fault → Text
  | empty => "Expression is empty"
  | unexpectedCharacter char column =>
    "Unexpected character " ++ Text.shown [char] ++ " at column " ++ Text.ofNat column
  | malformedEscape column => "Malformed \\u escape at column " ++ Text.ofNat column
  | unknownEscape char column =>
    "Unknown escape '\\" ++ [char] ++ "' at column " ++ Text.ofNat column
  | unterminatedString column => "Unterminated string starting at column " ++ Text.ofNat column
  | expected what column found =>
    what.message ++ " at column " ++ Text.ofNat column ++ ", found " ++
      (match found with
        | none => "end of expression"
        | some text => text.shown)
  | outOfRange value => "Number " ++ value.toText ++ " is out of range"
  | unknownFunction word => "Unknown function '" ++ word ++ "'"
  | argumentCount word => "'" ++ word ++ "' takes exactly one argument"
  | unknownName word =>
    "Unknown name '" ++ word ++ "'; expressions may reference workflow, state or input"
  | unknownInputField key => "Workflow input has no field '" ++ key ++ "'"
  | undeclaredState word => "State variable '" ++ word ++ "' is not declared"
  | rejected rendered why =>
    "Compiled expression " ++ rendered.shown ++ " was rejected: " ++ why.message

inductive Failure where
  | fault (fault : Fault)
  | numeral (fault : NumeralFault)
deriving DecidableEq, Repr

end Expr

end AgentFlow
