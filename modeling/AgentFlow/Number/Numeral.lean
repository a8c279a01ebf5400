import AgentFlow.Text.Basic

/-!
# Integers as text

Reading an integer from decimal digits, or writing it, takes time that grows faster than their
number, so the number of digits is limited.
-/

namespace AgentFlow.Numeral

/-- The most digits that an integer is read from or written with. -/
def digitLimit : Nat := 4300

def tooManyDigits (count : Nat) : Text :=
  "Exceeds the limit (" ++ Text.ofNat digitLimit ++
    " digits) for integer string conversion: value has " ++ Text.ofNat count ++
    " digits; use sys.set_int_max_str_digits() to increase the limit"

/-- What is said of an integer that has too many digits to be written. -/
def unwritable : Text :=
  "Exceeds the limit (" ++ Text.ofNat digitLimit ++
    " digits) for integer string conversion; use sys.set_int_max_str_digits() to increase the limit"

end AgentFlow.Numeral
