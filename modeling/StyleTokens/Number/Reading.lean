import StyleTokens.Number.Basic
import StyleTokens.Text.Blank
import StyleTokens.Text.Case
import StyleTokens.Text.Character

/-!
# Numbers read from text

A text may stand where a number is wanted. Blanks around it do not count, digits of every script
do, and single underscores may stand between digits.
-/

namespace StyleTokens.Number

/-- A character with a digit of any script turned into the ASCII digit. -/
def asciiDigit (c : Char) : Char :=
  match Text.decimalDigit? c with
  | some d => Nat.digitChar d
  | none => c

/-- A text as its number is read: without blanks around it, and with ASCII digits. -/
def prepared (text : List Char) : List Char := (Text.trim text).map asciiDigit

/-- The sign that a text begins with, and the rest: whether the number is negative. -/
def readSign : List Char → Bool × List Char
  | '-' :: rest => (true, rest)
  | '+' :: rest => (false, rest)
  | text => (false, text)

/-- The digits that a text begins with, underscores between them left out, and the rest. There may
be none. -/
def readDigitRun : List Char → List Char × List Char
  | [] => ([], [])
  | '_' :: c :: rest =>
    if Text.isAsciiDigit c then
      let (run, after) := readDigitRun rest
      (c :: run, after)
    else ([], '_' :: c :: rest)
  | c :: rest =>
    if Text.isAsciiDigit c then
      let (run, after) := readDigitRun rest
      (c :: run, after)
    else ([], c :: rest)

/-- The digits at the beginning of a text, the first of which is no underscore. -/
def readDigits (text : List Char) : List Char × List Char :=
  if text.head? = some '_' then ([], text) else readDigitRun text

/-- The most digits that a whole number may have. -/
def readLimit : Nat := 4300

/-- The whole number that a text stands for. -/
def readInt? (text : List Char) : Option Int :=
  let (negative, unsigned) := readSign (prepared text)
  let (run, rest) := readDigits unsigned
  if run.isEmpty || !rest.isEmpty || readLimit < run.length then none
  else some (if negative then -(ofDigits run : Int) else ofDigits run)

/-- The exponent at the end of a decimal; without one it is zero. -/
def readExponent? : List Char → Option Int
  | [] => some 0
  | c :: rest =>
    if c = 'e' ∨ c = 'E' then
      let (negative, unsigned) := readSign rest
      let (run, after) := readDigits unsigned
      if run.isEmpty || !after.isEmpty then none
      else some (if negative then -(ofDigits run : Int) else ofDigits run)
    else none

/-- The decimal that a text without a sign stands for. -/
def readUnsigned? (text : List Char) : Option Decimal :=
  let (whole, rest) := readDigits text
  let (fraction, rest) := match rest with
    | '.' :: after => readDigits after
    | other => ([], other)
  if whole.isEmpty && fraction.isEmpty then none
  else
    (readExponent? rest).map fun exponent =>
      ⟨ofDigits (whole ++ fraction), exponent - fraction.length⟩

/-- The double that a text stands for. -/
def readFloat? (text : List Char) : Option Binary64 :=
  let (negative, unsigned) := readSign (prepared text)
  let word := String.ofList (unsigned.map Char.toLower)
  if word = "inf" ∨ word = "infinity" then some (.infinite negative)
  else if word = "nan" then some .nan
  else (readUnsigned? unsigned).map (Decimal.toBinary64 negative)

end StyleTokens.Number
