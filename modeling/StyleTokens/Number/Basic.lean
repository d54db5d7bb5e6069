import StyleTokens.Number.Rounded
import StyleTokens.Number.Shortest

/-!
# Numbers

A number is a whole number of any size or a double. The two stay apart, but they compare by their
exact values, and a sum with a double is a double.
-/

namespace StyleTokens

/-- A whole number of any size, or a double. -/
inductive Number where
  /-- A whole number. -/
  | int (n : Int)
  /-- A double. -/
  | float (x : Binary64)
  deriving DecidableEq

namespace Number

instance : Inhabited Number := ⟨.int 0⟩

/-- The exact value of a finite number, as a number of units of `2 ^ (-1074)`. -/
def toUnits? : Number → Option Int
  | .int n => some (n * Binary64.unitsPerOne)
  | .float x => x.toUnits?

/-- Whether two numbers have the same value; `nan` has none. -/
def equals (a b : Number) : Bool :=
  match a.toUnits?, b.toUnits? with
  | some m, some n => m == n
  | none, none =>
    match a, b with
    | .float (.infinite s), .float (.infinite t) => s == t
    | _, _ => false
  | _, _ => false

/-- Whether a number is less than or equal to another; `nan` compares with none. -/
def le (a b : Number) : Bool :=
  match a, b with
  | .float .nan, _ => false
  | _, .float .nan => false
  | .float (.infinite true), _ => true
  | _, .float (.infinite false) => true
  | a, b =>
    match a.toUnits?, b.toUnits? with
    | some m, some n => m ≤ n
    | _, _ => false

/-- Whether a number is zero. -/
def isZero : Number → Bool
  | .int n => n == 0
  | .float x => x.isZero

/-- The nearest double; a whole number past every finite double has none. -/
def toBinary64? : Number → Option Binary64
  | .int n => if (Binary64.ofInt n).isFinite then some (Binary64.ofInt n) else none
  | .float x => some x

/-- The sum. A whole number past every finite double cannot be added to a double. -/
def add? : Number → Number → Option Number
  | .int m, .int n => some (.int (m + n))
  | a, b => do
    let x ← a.toBinary64?
    let y ← b.toBinary64?
    return .float (x.add y)

/-- The text of a number: decimal digits, or the shortest digits of a double. -/
def text (words : FloatWords) : Number → List Char
  | .int n => intDigits n
  | .float x => x.text words

end Number

end StyleTokens
