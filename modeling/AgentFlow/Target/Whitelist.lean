import AgentFlow.Target.Parser
import AgentFlow.Target.Rejection

/-!
# The safe part of the generated language

A compiled expression may use constants, known names, boolean, arithmetic and comparison operators,
subscripts, lists, dictionaries, and calls of four conversion functions.  The check goes from the
outside in, parts in order, and reports the first thing outside this language.
-/

namespace AgentFlow.Target

/-- The functions that compiled expressions may call. -/
def helperFunctions : List Text := ["len", "str", "int", "float"]

def BinaryOp.className : BinaryOp → Text
  | add => "Add"
  | sub => "Sub"
  | mul => "Mult"
  | div => "Div"
  | mod => "Mod"
  | pow => "Pow"
  | floorDiv => "FloorDiv"
  | matMul => "MatMult"
  | shiftLeft => "LShift"
  | shiftRight => "RShift"
  | bitOr => "BitOr"
  | bitXor => "BitXor"
  | bitAnd => "BitAnd"

def BinaryOp.isSafe : BinaryOp → Bool
  | add | sub | mul | div | mod => true
  | _ => false

def UnaryOp.isSafe : UnaryOp → Bool
  | not | minus | plus => true
  | invert => false

def UnaryOp.className : UnaryOp → Text
  | not => "Not"
  | minus => "USub"
  | plus => "UAdd"
  | invert => "Invert"

def CompareOp.isSafe : CompareOp → Bool
  | eq | notEq | lt | ltE | gt | gtE | member => true
  | is | isNot | notMember => false

def CompareOp.className : CompareOp → Text
  | eq => "Eq"
  | notEq => "NotEq"
  | lt => "Lt"
  | ltE => "LtE"
  | gt => "Gt"
  | gtE => "GtE"
  | is => "Is"
  | isNot => "IsNot"
  | member => "In"
  | notMember => "NotIn"

def Code.className : Code → Text
  | constant _ => "Constant"
  | name _ => "Name"
  | boolOp _ _ => "BoolOp"
  | named _ _ => "NamedExpr"
  | binOp _ _ _ => "BinOp"
  | unaryOp _ _ => "UnaryOp"
  | lambda _ _ => "Lambda"
  | ifExp _ _ _ => "IfExp"
  | dict _ => "Dict"
  | set _ => "Set"
  | listComp _ _ => "ListComp"
  | setComp _ _ => "SetComp"
  | dictComp _ _ _ => "DictComp"
  | generator _ _ => "GeneratorExp"
  | await _ => "Await"
  | yield _ => "Yield"
  | yieldFrom _ => "YieldFrom"
  | compare _ _ => "Compare"
  | call _ _ _ => "Call"
  | formatted _ _ _ => "FormattedValue"
  | joined _ => "JoinedStr"
  | attr _ _ => "Attribute"
  | subscript _ _ => "Subscript"
  | starred _ => "Starred"
  | list _ => "List"
  | tuple _ => "Tuple"
  | slice _ _ _ => "Slice"

def Code.isHelper : Code → Bool
  | name id => id ∈ helperFunctions
  | _ => false

mutual

/-- Checks an expression; `allowed` are the names it may use besides the helper functions. -/
def check (allowed : List Text) : Code → Except Rejection Unit
  | .constant _ => .ok ()
  | .name id =>
    if id ∈ allowed ∨ id ∈ helperFunctions then .ok () else .error (.unknownVariable id)
  | .boolOp _ values => checkAll allowed values
  | .binOp op left right =>
    if op.isSafe then do check allowed left; check allowed right
    else .error (.operator op.className)
  | .unaryOp op operand =>
    if op.isSafe then check allowed operand else .error (.unary op.className)
  | .compare left rest =>
    match rest.find? fun (op, _) => !op.isSafe with
    | some (op, _) => .error (.comparison op.className)
    | none => do check allowed left; checkComparands allowed rest
  | .call function arguments keywords =>
    if !function.isHelper then .error .call
    else if !keywords.isEmpty then .error .keywordArgument
    else checkAll allowed arguments
  | .subscript value index => do check allowed value; check allowed index
  | .list items => checkAll allowed items
  | .dict entries => do checkKeys allowed entries; checkValues allowed entries
  | code => .error (.node code.className)

def checkAll (allowed : List Text) : List Code → Except Rejection Unit
  | [] => .ok ()
  | code :: rest => do check allowed code; checkAll allowed rest

def checkComparands (allowed : List Text) : List (CompareOp × Code) → Except Rejection Unit
  | [] => .ok ()
  | (_, code) :: rest => do check allowed code; checkComparands allowed rest

/-- Checks the keys of a dictionary; an unpacked mapping has none. -/
def checkKeys (allowed : List Text) : List (Option Code × Code) → Except Rejection Unit
  | [] => .ok ()
  | (none, _) :: rest => checkKeys allowed rest
  | (some key, _) :: rest => do check allowed key; checkKeys allowed rest

def checkValues (allowed : List Text) : List (Option Code × Code) → Except Rejection Unit
  | [] => .ok ()
  | (_, value) :: rest => do check allowed value; checkValues allowed rest

end

def checkText (rendered : Text) (allowed : List Text) : Except Rejection Unit :=
  match rendered.surrogateRun? with
  | some run => .error (.surrogates run)
  | none =>
    if rendered.contains '\x00' then .error .nullCharacter
    else
      match parse ((rendered.toChars?).getD []) with
      | none => .error .unreadable
      | some code => check allowed code

end AgentFlow.Target
