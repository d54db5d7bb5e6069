import StyleTokens.Number.Decimal

/-!
# Magnitudes of a given precision

A number in a stylesheet is written in plain notation with fourteen significant digits, rounded
half away from zero on its exact value, and without the zeros that end a fraction. Whole numbers
up to `2 ^ 53 - 1` are written with all their digits.

In other texts the magnitude of a double, in units, can be written with a given count of digits
behind the point, or with a given count of significant digits and an exponent. Both round the exact
value to the nearest such number, a tie going to the one whose last digit is even. The point is left
out if no digit follows it, unless it is asked for.
-/

namespace StyleTokens

/-! ### Fourteen significant digits -/

/-- How many significant digits a stylesheet number keeps. -/
def significantDigits : Nat := 14

/-- The largest whole number below which every whole number is a double. -/
def maxSafeInteger : Nat := Nat.pow 2 53 - 1

/-- The multiple of a power of ten nearest to a positive ratio that keeps fourteen significant
digits, a tie going up. -/
def significantDecimal (num den : Nat) : Decimal :=
  let exponent := decade num den - (significantDigits - 1 : Nat)
  let unit : Decimal := ⟨1, exponent⟩
  ⟨roundHalfUp (num * unit.den) (den * unit.num), exponent⟩

/-- A finite double with fourteen significant digits in plain notation; both zeros are `0`. -/
def significantText (negative : Bool) (units : Nat) : List Char :=
  if units = 0 then ['0']
  else
    (if negative then ['-'] else []) ++
      dropFractionZeros (significantDecimal units Binary64.unitsPerOne).plain

namespace Rounded

/-! ### Other counts of digits -/

/-- No double has a digit other than zero behind this many places. -/
def lastPlace : Nat := 1074

/-- A point, if it is asked for. -/
def loosePoint (wanted : Bool) : List Char := if wanted then ['.'] else []

/-- A magnitude in plain notation with so many digits behind the point. -/
def places (units count : Nat) (keepPoint : Bool) : List Char :=
  let exact := min count lastPlace
  (Decimal.mk (roundHalfEven (units * Nat.pow 10 exact) Binary64.unitsPerOne) (-exact)).plain ++
    List.replicate (count - exact) '0' ++ loosePoint (keepPoint && count == 0)

/-- The digits of a magnitude with one more than so many significant digits, and the power of ten
of the first one. Zero has the power zero. -/
def scientific (units count : Nat) : Nat × Int :=
  if units = 0 then (0, 0)
  else
    let power := decade units Binary64.unitsPerOne
    let unit : Decimal := ⟨1, power - count⟩
    let rounded := roundHalfEven (units * unit.den) (Binary64.unitsPerOne * unit.num)
    if rounded < Nat.pow 10 (count + 1) then (rounded, power) else (rounded / 10, power + 1)

/-- A whole number of at least two digits with its sign. -/
def exponentText (power : Int) : List Char :=
  let ds := digits power.natAbs
  (if power < 0 then '-' else '+') :: (if ds.length < 2 then '0' :: ds else ds)

/-- Digits and an exponent. -/
def withExponent (coefficient : List Char) (power : Int) : List Char :=
  coefficient ++ 'e' :: exponentText power

/-- Digits with a point behind the first one. -/
def pointed (keepPoint : Bool) : List Char → List Char
  | [] => []
  | [d] => d :: loosePoint keepPoint
  | d :: rest => d :: '.' :: rest

/-- The digits of a whole number, with zeros in front to make so many. -/
def padded (count n : Nat) : List Char :=
  let ds := digits n
  List.replicate (count - ds.length) '0' ++ ds

/-- A magnitude with an exponent and so many digits behind the point. -/
def exponential (units count : Nat) (keepPoint : Bool) : List Char :=
  let exact := min count lastPlace
  let (coefficient, power) := scientific units exact
  withExponent (pointed keepPoint
    (padded (exact + 1) coefficient ++ List.replicate (count - exact) '0')) power

/-- A magnitude with so many significant digits, in plain notation unless its power of ten is below
`-4` or not below that count. The zeros that end a fraction are dropped unless they are asked
for. -/
def general (units count : Nat) (keepZeros : Bool) : List Char :=
  let count := max count 1
  let (_, power) := scientific units (min (count - 1) lastPlace)
  let trim (text : List Char) : List Char := if keepZeros then text else dropFractionZeros text
  if -4 ≤ power ∧ power < count then trim (places units (count - 1 - power).toNat keepZeros)
  else
    let coefficient := (exponential units (count - 1) keepZeros).takeWhile (· != 'e')
    withExponent (trim coefficient) power

end Rounded

end StyleTokens
