import AgentFlow.Number.Binary64

/-!
# Shortest decimal text of a double

A double is written with the fewest digits that read back as the same double, and among those with
the nearest ones.  For one up to seventeen digits the two decimals next to the value are tried.  The
text is positional when the decimal exponent lies between minus four and fifteen, and scientific
with at least two exponent digits otherwise.
-/

namespace AgentFlow.Binary64

/-- The position `p` with `10 ^ (p - 1) ≤ x < 10 ^ p` for the magnitude of a finite non-zero
number. -/
def decimalPoint (x : Binary64) : Int :=
  let (numerator, denominator) := x.ratio
  ((Nat.toDigits 10 (numerator * Nat.pow 10 400 / denominator)).length : Int) - 400

/-- Of the two decimals with `count` digits next to the magnitude, one that reads back, the nearer
when both do; the digits come as a number. -/
def neighbour? (x : Binary64) (point : Int) (count : Nat) : Option Nat :=
  let (numerator, denominator) := x.ratio
  let power : Int := point - count
  let (top, bottom) :=
    if 0 ≤ power then (numerator, denominator * Nat.pow 10 power.toNat)
    else (numerator * Nat.pow 10 (-power).toNat, denominator)
  let below := top / bottom
  let readsBack (digits : Nat) : Bool := ofDecimal x.negative digits power = x
  if top % bottom = 0 then (if readsBack below then some below else none)
  else
    match readsBack below, readsBack (below + 1) with
    | true, true => some (roundedQuotient top bottom)
    | true, false => some below
    | false, true => some (below + 1)
    | false, false => none

/-- The fewest digits that read back as a finite non-zero number, with the position of the decimal
point counted from the first digit. -/
def shortestDigits (x : Binary64) : List Char × Int :=
  let point := x.decimalPoint
  let found := (List.range 17).findSome? fun i =>
    (x.neighbour? point (i + 1)).map fun digits => (digits, i + 1)
  match found with
  | none => ([], point)
  | some (digits, count) =>
    let chars := Nat.toDigits 10 digits
    let carried : Int := (chars.length : Int) - count
    ((chars.reverse.dropWhile (· == '0')).reverse, point + carried)

/-- The text of digits with the decimal point at a given position. -/
def layout (digits : List Char) (point : Int) : List Char :=
  if -4 < point ∧ point ≤ 16 then
    if point ≤ 0 then '0' :: '.' :: List.replicate (-point).toNat '0' ++ digits
    else
      let whole := digits.take point.toNat
      let rest := digits.drop point.toNat
      whole ++ List.replicate (point.toNat - whole.length) '0' ++
        '.' :: (if rest.isEmpty then ['0'] else rest)
  else
    let shift := point - 1
    let magnitude := Nat.toDigits 10 shift.natAbs
    digits.take 1 ++ (if digits.length ≤ 1 then [] else '.' :: digits.drop 1) ++
      'e' :: (if shift < 0 then '-' else '+') ::
        (List.replicate (2 - magnitude.length) '0' ++ magnitude)

def toText (x : Binary64) : Text :=
  if x.isNaN then "nan"
  else
    let magnitude : Text :=
      if !x.isFinite then "inf"
      else if x.isZero then "0.0"
      else
        let (digits, point) := x.shortestDigits
        Text.ofChars (layout digits point)
    if x.negative then '-' :: magnitude else magnitude

/-! ## Doubles with a given number of places

The magnitude of a finite double, rounded to a number of decimal places or of digits, a tie going to
the even neighbour.
-/

def paddedDigits (count n : Nat) : List Char :=
  let digits := Nat.toDigits 10 n
  List.replicate (count - digits.length) '0' ++ digits

def scaled (x : Binary64) (power : Int) : Nat :=
  let (numerator, denominator) := x.ratio
  if 0 ≤ power then roundedQuotient (numerator * Nat.pow 10 power.toNat) denominator
  else roundedQuotient numerator (denominator * Nat.pow 10 (-power).toNat)

def fixedPlaces (x : Binary64) (places : Nat) : List Char × List Char :=
  let digits := paddedDigits (places + 1) (x.scaled places)
  (digits.take (digits.length - places), digits.drop (digits.length - places))

/-- The magnitude with one digit before the point and a number of places after it: the digits, and
the power of ten. -/
def scientificPlaces (x : Binary64) (places : Nat) : List Char × Int :=
  if x.isZero then (List.replicate (places + 1) '0', 0)
  else
    let power := x.decimalPoint - 1
    let digits := Nat.toDigits 10 (x.scaled (places - power))
    if digits.length = places + 2 then (digits.dropLast, power + 1) else (digits, power)

end AgentFlow.Binary64
