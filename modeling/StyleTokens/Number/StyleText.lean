import StyleTokens.Fault
import StyleTokens.Number.Basic

/-!
# Numbers in a stylesheet

A whole number up to `2 ^ 53 - 1` in size is written with all its digits, any other number with
fourteen significant ones. A double and a whole number of the same value are written alike. An
infinite number has no text, nor has a whole number past every double.
-/

namespace StyleTokens.Number

/-- A number with fourteen significant digits. -/
def significantText? : Number → Except Fault (List Char)
  | .int n =>
    .ok (if n = 0 then ['0']
      else
        (if n < 0 then ['-'] else []) ++ dropFractionZeros (significantDecimal n.natAbs 1).plain)
  | .float .nan => .ok "NaN".toList
  | .float (.infinite _) => .error .infiniteNumber
  | .float (.finite negative units _) => .ok (significantText negative units)

/-- The value of a whole number that is small enough to be written with all its digits. -/
def safeInteger? : Number → Option Int
  | .int n => if n.natAbs ≤ maxSafeInteger then some n else none
  | .float x =>
    if x.isWhole then x.truncate?.filter fun n => n.natAbs ≤ maxSafeInteger else none

/-- A number as it is written in class names and declarations. -/
def styleText (n : Number) : Except Fault (List Char) :=
  match n.safeInteger? with
  | some m => .ok (intDigits m)
  | none =>
    match n.toBinary64? with
    | some x => (Number.float x).significantText?
    | none => .error .integerRange

end StyleTokens.Number
