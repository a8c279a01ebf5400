import AgentFlow.Text.Basic

/-!
# Double-precision numbers

A double is given by its sign, its biased exponent and its fraction.  One double is no number, so
doubles are equal if they are written alike.  Doubles are read from decimal digits, rounding to the
nearest and on a tie to the even mantissa, and written; there is no arithmetic on them.
-/

namespace AgentFlow

/-! ## Rounded quotients

The quotient of two natural numbers, rounded to the nearest integer.
-/

/-- The quotient of two numbers rounded to the nearest integer, a tie going to the even one. -/
def roundedQuotient (numerator denominator : Nat) : Nat :=
  let quotient := numerator / denominator
  let doubled := 2 * (numerator % denominator)
  if doubled < denominator then quotient
  else if denominator < doubled then quotient + 1
  else quotient + quotient % 2

/-! ## Doubles -/

/-- A double-precision number: sign, biased exponent and fraction. -/
structure Binary64 where
  negative : Bool
  biased : Fin 2048
  fraction : Fin (Nat.pow 2 52)
  /-- What is no number has one bit pattern. -/
  quiet : biased.val = 2047 → fraction.val ≠ 0 → negative = false ∧ fraction.val = Nat.pow 2 51
deriving DecidableEq, Repr

namespace Binary64

def isFinite (x : Binary64) : Bool := x.biased.val ≠ 2047

def isNaN (x : Binary64) : Bool := x.biased.val = 2047 ∧ x.fraction.val ≠ 0

def isZero (x : Binary64) : Bool := x.biased.val = 0 ∧ x.fraction.val = 0

def zero (negative : Bool) : Binary64 := ⟨negative, 0, 0, nofun⟩

instance : Inhabited Binary64 := ⟨zero false⟩

def infinity (negative : Bool) : Binary64 := ⟨negative, 2047, 0, fun _ some => absurd rfl some⟩

def nan : Binary64 := ⟨false, 2047, ⟨Nat.pow 2 51, by decide⟩, fun _ _ => ⟨rfl, rfl⟩⟩

/-- The integer `m` of a finite magnitude `m * 2 ^ e`. -/
def mantissa (x : Binary64) : Nat :=
  if x.biased.val = 0 then x.fraction else Nat.pow 2 52 + x.fraction

/-- The power `e` of a finite magnitude `m * 2 ^ e`. -/
def exponent (x : Binary64) : Int :=
  if x.biased.val = 0 then -1074 else (x.biased.val : Int) - 1075

/-- The magnitude of a finite number as a numerator and a denominator. -/
def ratio (x : Binary64) : Nat × Nat :=
  if 0 ≤ x.exponent then (x.mantissa * Nat.pow 2 x.exponent.toNat, 1)
  else (x.mantissa, Nat.pow 2 (-x.exponent).toNat)

/-- The largest `l` with `2 ^ l * denominator ≤ numerator`, both positive. -/
def floorLog (numerator denominator : Nat) : Int :=
  let guess : Int := (Nat.log2 numerator : Int) - Nat.log2 denominator
  let fits : Bool :=
    if 0 ≤ guess then denominator * Nat.pow 2 guess.toNat ≤ numerator
    else denominator ≤ numerator * Nat.pow 2 (-guess).toNat
  if fits then guess else guess - 1

/-- The double with a given integer mantissa below `2 ^ 53` and exponent, infinite when the
exponent is too large. -/
def ofMantissa (negative : Bool) (m : Nat) (e : Int) : Binary64 :=
  if m < Nat.pow 2 52 then ⟨negative, 0, Fin.ofNat (Nat.pow 2 52) m, nofun⟩
  else if large : 972 ≤ e then infinity negative
  else
    have finite : (e + 1075).toNat % 2048 ≠ 2047 := by omega
    ⟨negative, Fin.ofNat 2048 (e + 1075).toNat, Fin.ofNat (Nat.pow 2 52) (m - Nat.pow 2 52),
      fun top => absurd top finite⟩

/-- The double nearest to a positive fraction, a tie going to the even mantissa. -/
def ofRatio (negative : Bool) (numerator denominator : Nat) : Binary64 :=
  let e := max (-1074) (floorLog numerator denominator - 52)
  let m :=
    if 0 ≤ e then roundedQuotient numerator (denominator * Nat.pow 2 e.toNat)
    else roundedQuotient (numerator * Nat.pow 2 (-e).toNat) denominator
  if m = Nat.pow 2 53 then ofMantissa negative (Nat.pow 2 52) (e + 1) else ofMantissa negative m e

/-- The double nearest to `digits * 10 ^ power`.  Magnitudes far outside the range are decided by
their number of digits alone. -/
def ofDecimal (negative : Bool) (digits : Nat) (power : Int) : Binary64 :=
  if digits = 0 then zero negative
  else
    let magnitude : Int := (Nat.toDigits 10 digits).length + power
    if 310 < magnitude then infinity negative
    else if magnitude < -330 then zero negative
    else if 0 ≤ power then ofRatio negative (digits * Nat.pow 10 power.toNat) 1
    else ofRatio negative digits (Nat.pow 10 (-power).toNat)

theorem negative_ofMantissa (negative : Bool) (m : Nat) (e : Int) :
    (ofMantissa negative m e).negative = negative := by
  rw [ofMantissa]
  split
  · rfl
  · split <;> rfl

theorem negative_ofDecimal (negative : Bool) (digits : Nat) (power : Int) :
    (ofDecimal negative digits power).negative = negative := by
  have ratio (numerator denominator : Nat) :
      (ofRatio negative numerator denominator).negative = negative := by
    rw [ofRatio]
    split <;> split <;> exact negative_ofMantissa _ _ _
  rw [ofDecimal]
  split
  · rfl
  · dsimp only
    split
    · rfl
    · split
      · rfl
      · split <;> exact ratio _ _

/-- The integer that a finite number without fraction equals. -/
def toInt? (x : Binary64) : Option Int :=
  if x.isFinite then
    let (numerator, denominator) := x.ratio
    if numerator % denominator = 0 then
      let magnitude : Int := (numerator / denominator : Nat)
      some (if x.negative then -magnitude else magnitude)
    else none
  else none

end Binary64

end AgentFlow
