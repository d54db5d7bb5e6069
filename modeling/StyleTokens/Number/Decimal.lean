import StyleTokens.Number.Binary64

/-!
# Decimal numerals

A decimal is a whole coefficient times a power of ten. The module writes whole numbers as digits,
reads a decimal as the nearest double, and finds the decade a ratio lies in.
-/

namespace StyleTokens

/-- The decimal digits of a whole number, most significant first. -/
def digits (n : Nat) : List Char := Nat.toDigits 10 n

/-- How many decimal digits a whole number has; zero has one. -/
def digitCount (n : Nat) : Nat := (digits n).length

/-- A whole number in decimal, with a leading `-` when it is negative. -/
def intDigits : Int → List Char
  | .ofNat n => digits n
  | .negSucc n => '-' :: digits (n + 1)

/-- The value of an ASCII digit; other characters count as zero. -/
def digitValue (c : Char) : Nat :=
  if '0' ≤ c ∧ c ≤ '9' then c.toNat - '0'.toNat else 0

/-- The whole number that a list of digits denotes. -/
def ofDigits (ds : List Char) : Nat :=
  ds.foldl (fun n c => 10 * n + digitValue c) 0

/-- The exponent `k` with `10 ^ k ≤ num / den < 10 ^ (k + 1)`, for a positive ratio. -/
def decade (num den : Nat) : Int :=
  if den ≤ num then (digitCount (num / den) : Int) - 1
  else -(digitCount ((den - 1) / num) : Int)

/-- The number `coefficient * 10 ^ exponent`. -/
structure Decimal where
  /-- The digits, read as a whole number. -/
  coefficient : Nat
  /-- The power of ten that they are multiplied by. -/
  exponent : Int
  deriving DecidableEq, Repr, Inhabited

namespace Decimal

/-- The numerator of a decimal as a ratio of whole numbers. -/
def num (d : Decimal) : Nat := d.coefficient * Nat.pow 10 d.exponent.toNat

/-- The denominator of a decimal as a ratio of whole numbers. -/
def den (d : Decimal) : Nat := Nat.pow 10 (-d.exponent).toNat

/-- The double nearest to a decimal. A decimal of more than 400 digits before the point is past
every double, and one that starts more than 400 places after it is nearer to zero than to any
other, so neither power of ten is computed. -/
def toBinary64 (negative : Bool) (d : Decimal) : Binary64 :=
  let top := (digitCount d.coefficient : Int) + d.exponent
  if d.coefficient = 0 ∨ top < -400 then Binary64.ofUnits negative 0 1
  else if 400 < top then .infinite negative
  else .ofRatio negative d.num d.den

/-- The same number with no trailing zero among its digits. -/
def trimmed (d : Decimal) : Decimal :=
  let ds := digits d.coefficient
  let kept := (ds.reverse.dropWhile (· == '0')).reverse
  if kept.isEmpty then ⟨0, 0⟩ else ⟨ofDigits kept, d.exponent + (ds.length - kept.length : Nat)⟩

/-- Plain notation: all digits, a point where it is needed, and no exponent. -/
def plain (d : Decimal) : List Char :=
  let ds := digits d.coefficient
  if 0 ≤ d.exponent then
    if d.coefficient = 0 then ['0'] else ds ++ List.replicate d.exponent.toNat '0'
  else
    let places := (-d.exponent).toNat
    let padded := List.replicate (places + 1 - ds.length) '0' ++ ds
    padded.take (padded.length - places) ++ '.' :: padded.drop (padded.length - places)

end Decimal

/-- Plain notation without the zeros that end a fraction, nor a point that nothing follows. -/
def dropFractionZeros (text : List Char) : List Char :=
  if text.contains '.' then
    ((text.reverse.dropWhile (· == '0')).dropWhile (· == '.')).reverse
  else text

end StyleTokens
