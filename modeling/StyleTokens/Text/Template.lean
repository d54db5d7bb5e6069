import StyleTokens.Number.Decimal

/-!
# Templates

A message may be given as a template: text with holes that arguments fill. A hole begins with a
percent sign; a key in brackets, flags, a width and a precision may stand before the letter that
says how its argument is written. Two percent signs stand for one.
-/

namespace StyleTokens.Text

/-- A width or a precision. -/
inductive Measure where
  /-- A given number. -/
  | fixed (n : Nat)
  /-- The next argument. -/
  | argument
  deriving DecidableEq, Repr

/-- A hole of a template. -/
structure Hole where
  /-- The key of the argument, when it has one. -/
  key : Option String
  /-- The flags. -/
  flags : List Char
  /-- The least number of characters. -/
  width : Option Measure
  /-- The number of digits, or the greatest number of characters. -/
  precision : Option Measure
  /-- The letter that says how the argument is written, unless the template ends before it. -/
  letter : Option Char
  /-- Where that letter stands in the template. -/
  position : Nat
  deriving DecidableEq, Repr

/-- A piece of a template. -/
inductive Piece where
  /-- A character of the text. -/
  | char (c : Char)
  /-- A hole. -/
  | hole (hole : Hole)
  /-- A hole whose key does not end. -/
  | openKey
  deriving DecidableEq, Repr

namespace Template

/-- A key up to the bracket that closes it, and what follows. -/
def readKey (depth : Nat) : List Char → Option (List Char × List Char)
  | [] => none
  | ')' :: rest =>
    match depth with
    | 0 => some ([], rest)
    | depth + 1 => (readKey depth rest).map fun (key, after) => (')' :: key, after)
  | '(' :: rest => (readKey (depth + 1) rest).map fun (key, after) => ('(' :: key, after)
  | c :: rest => (readKey depth rest).map fun (key, after) => (c :: key, after)

/-- Whether a character is a flag. -/
def isFlag (c : Char) : Bool := "-+ #0".toList.contains c

/-- A width, if there is one, and what follows. -/
def readMeasure : List Char → Option Measure × List Char
  | '*' :: rest => (some .argument, rest)
  | text =>
    let ds := text.takeWhile Char.isDigit
    (if ds.isEmpty then none else some (.fixed (ofDigits ds)), text.dropWhile Char.isDigit)

/-- A precision, if there is one, and what follows. A point alone is a precision of zero. -/
def readPrecision : List Char → Option Measure × List Char
  | '.' :: rest =>
    let (precision, after) := readMeasure rest
    (some (precision.getD (.fixed 0)), after)
  | text => (none, text)

/-- What follows a letter that tells the size of a number, if there is one. The size has no
meaning. -/
def skipSize : List Char → List Char
  | c :: rest => if "hlL".toList.contains c then rest else c :: rest
  | [] => []

/-- A hole behind its key, in a template of the given length; and what follows. -/
def readHole (length : Nat) (key : Option String) (text : List Char) : Piece × List Char :=
  let flags := text.takeWhile isFlag
  let (width, text) := readMeasure (text.dropWhile isFlag)
  let (precision, text) := readPrecision text
  let text := skipSize text
  (.hole ⟨key, flags, width, precision, text.head?, length - text.length⟩, text.tail)

/-- What stands behind a percent sign, in a template of the given length; and what follows. -/
def readDirective (length : Nat) : List Char → Piece × List Char
  | '%' :: text => (.char '%', text)
  | '(' :: text =>
    match readKey 0 text with
    | some (key, rest) => readHole length (some (String.ofList key)) rest
    | none => (.openKey, [])
  | text => readHole length none text

/-- The pieces of a template of the given length; the text is read for so many steps. -/
def readPieces (length : Nat) : Nat → List Char → List Piece
  | 0, _ => []
  | _, [] => []
  | steps + 1, '%' :: text =>
    let (piece, rest) := readDirective length text
    piece :: readPieces length steps rest
  | steps + 1, c :: text => .char c :: readPieces length steps text

/-- The pieces of a template. -/
def pieces (text : List Char) : List Piece := readPieces text.length text.length text

end Template

end StyleTokens.Text
