import AgentFlow.Text.Quoted

/-!
# Why generated code is rejected

A compiled expression is read back and must stay within a small safe part of the generated language.
-/

namespace AgentFlow.Target

inductive Rejection where
  | surrogates (run : SurrogateRun)
  | nullCharacter
  | unreadable
  | node (kind : Text)
  | operator (name : Text)
  | unary (name : Text)
  | comparison (name : Text)
  | call
  | keywordArgument
  | unknownVariable (name : Text)
deriving DecidableEq, Repr

def Rejection.message : Rejection → Text
  | surrogates run => run.message
  | nullCharacter => "source code string cannot contain null bytes"
  | unreadable => "invalid syntax"
  | node kind => "Disallowed expression node: " ++ kind
  | operator name => "Operator '" ++ name ++ "' is not allowed"
  | unary name => "Unary op '" ++ name ++ "' is not allowed"
  | comparison name => "Comparator '" ++ name ++ "' is not allowed"
  | call => "Only whitelisted helper functions can be called"
  | keywordArgument => "Keyword arguments are not allowed"
  | unknownVariable name => "Unknown variable '" ++ name ++ "' in expression"

end AgentFlow.Target
