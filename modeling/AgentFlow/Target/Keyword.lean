import AgentFlow.Text.CodePoint

/-!
# Reserved words

The words of the generated language that cannot be names.
-/

namespace AgentFlow.Target

def keywords : List String :=
  ["False", "None", "True", "and", "as", "assert", "async", "await", "break", "class", "continue",
    "def", "del", "elif", "else", "except", "finally", "for", "from", "global", "if", "import",
    "in", "is", "lambda", "nonlocal", "not", "or", "pass", "raise", "return", "try", "while",
    "with", "yield"]

def isKeyword (t : Text) : Bool := keywords.any fun word => t = word

end AgentFlow.Target
