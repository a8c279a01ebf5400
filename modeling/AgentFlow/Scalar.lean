import AgentFlow.Number.Shortest
import AgentFlow.Text.Quoted

/-!
# Scalars

Values without parts, as expressions, documents and generated code share them, and their spelling in
generated code.
-/

namespace AgentFlow

inductive Scalar where
  | null
  | bool (value : Bool)
  | int (value : Int)
  | float (value : Binary64)
  | str (value : Text)
deriving DecidableEq, Repr, Inhabited

namespace Scalar

/-- The spelling of a scalar in generated code; only finite numbers have one. -/
def spelled : Scalar → Text
  | null => "None"
  | bool value => if value then "True" else "False"
  | int value => Text.ofInt value
  | float value => value.toText
  | str value => value.doubleQuoted

end Scalar

end AgentFlow
