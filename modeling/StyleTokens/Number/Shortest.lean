import StyleTokens.Number.Decimal

/-!
# Shortest decimals

The shortest text of a double has the fewest digits that read back as that double; of those with
the fewest, the nearest to it, and of two equally near the even one. Small and large magnitudes
are written with an exponent.
-/

namespace StyleTokens

namespace Binary64

/-- Whether a positive decimal reads back as the double of the given number of units. -/
def readsBack (units : Nat) (d : Decimal) : Bool :=
  nearestUnits (d.num * unitsPerOne) d.den == units

/-- The two decimals with `places` digits on either side of a positive number of units: the one
below or equal, and the next. -/
def neighbours (units places : Nat) : Decimal × Decimal :=
  let step : Decimal := ⟨1, decade units unitsPerOne - (places : Int) + 1⟩
  let below := units * step.den / (unitsPerOne * step.num)
  (⟨below, step.exponent⟩, ⟨below + 1, step.exponent⟩)

/-- Of two decimals around a number of units, the nearer; of two equally near, the even one. -/
def nearer (units : Nat) (below above : Decimal) : Decimal :=
  let twice := 2 * units * below.den
  let middle := (below.num + above.num) * unitsPerOne
  if twice < middle then below
  else if middle < twice then above
  else if below.coefficient % 2 = 0 then below else above

/-- The decimal with the given number of digits that reads back and is nearest, if there is one. -/
def shortestWith? (units places : Nat) : Option Decimal :=
  let below := (neighbours units places).1
  let above := (neighbours units places).2
  if readsBack units below then
    some (if readsBack units above then nearer units below above else below)
  else if readsBack units above then some above
  else none

/-- A number of units written out in full. -/
def exactDecimal (units : Nat) : Decimal := ⟨units * Nat.pow 5 1074, -1074⟩

/-- The shortest decimal that reads back as a positive number of units. Seventeen digits always
suffice; the full expansion stands behind them. -/
def shortest (units : Nat) : Decimal :=
  (((List.range 17).findSome? fun k => shortestWith? units (k + 1)).getD
    (exactDecimal units)).trimmed

end Binary64

/-- The texts of the values that have no digits. -/
structure FloatWords where
  /-- The text of `nan`. -/
  nan : String
  /-- The text of positive infinity. -/
  infinity : String

/-- The words of a displayed value: `nan` and `inf`. -/
def FloatWords.display : FloatWords := ⟨"nan", "inf"⟩

/-- The words of a JSON document: `NaN` and `Infinity`. -/
def FloatWords.json : FloatWords := ⟨"NaN", "Infinity"⟩

/-- Shortest digits as text: positional when the first digit stands from four places after the
point to sixteen before it, with `.0` after a whole number; otherwise with an exponent of a sign
and at least two digits. -/
def Decimal.shortestText (d : Decimal) : List Char :=
  let ds := digits d.coefficient
  let leading := d.exponent + (ds.length : Int) - 1
  if -4 ≤ leading ∧ leading < 16 then
    let text := d.plain
    if text.contains '.' then text else text ++ ['.', '0']
  else
    let fraction := ds.drop 1
    let power := digits leading.natAbs
    ds.take 1 ++ (if fraction.isEmpty then [] else '.' :: fraction) ++
      ['e', if leading < 0 then '-' else '+'] ++
      List.replicate (2 - power.length) '0' ++ power

/-- The text of a double: its shortest digits, or the word for a value without digits. -/
def Binary64.text (words : FloatWords) : Binary64 → List Char
  | .nan => words.nan.toList
  | .infinite negative => (if negative then ['-'] else []) ++ words.infinity.toList
  | .finite negative units _ =>
    (if negative then ['-'] else []) ++
      (if units = 0 then ['0', '.', '0'] else (shortest units).shortestText)

end StyleTokens
