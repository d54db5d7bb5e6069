import StyleTokens.Fault
import StyleTokens.Number.Rounded
import StyleTokens.Text.Template

/-!
# Filling templates

The holes of a template are filled with arguments in order, or with the entries of a map under the
keys that the holes name. Every argument of a sequence has to be used.
-/

namespace StyleTokens.Template

open Text

/-- What a template is filled with. -/
structure Arguments where
  /-- The map whose entries keys name, if it is filled from a map. -/
  entries : Option Value.Entries
  /-- The arguments that are left. -/
  left : List Value

/-- The next argument, and the arguments behind it. -/
def Arguments.next (arguments : Arguments) : Except Fault (Value × Arguments) :=
  match arguments.left with
  | value :: rest => .ok (value, { arguments with left := rest })
  | [] => .error (.template .tooFew)

/-- The arguments of a hole with a key. -/
def Arguments.under (arguments : Arguments) (key : String) : Except Fault Arguments :=
  match arguments.entries with
  | none => .error (.template .needsMap)
  | some entries =>
    match entries.find? (.str key) with
    | some value => .ok { arguments with left := [value] }
    | none => .error (.absentKey (.str key))

/-- The number that an argument gives as a width or precision, which must not be too large. -/
def givenMeasure (quantity : Quantity) : Value → Except Fault Int
  | .scalar (.num (.int n)) =>
    if -(quantity.bound + 1 : Int) ≤ n ∧ n ≤ quantity.bound then .ok n
    else .error (.template (.argumentRange quantity))
  | .scalar (.bool b) => .ok b.toNat
  | _ => .error (.template .measureNotInt)

/-- A width or precision as a number, and the arguments behind it. -/
def measure (quantity : Quantity) (arguments : Arguments) :
    Option Measure → Except Fault (Option Int × Arguments)
  | none => .ok (none, arguments)
  | some (.fixed n) =>
    if n ≤ quantity.bound then .ok (some n, arguments)
    else .error (.template (.tooBig quantity))
  | some .argument => do
    let (value, after) ← arguments.next
    return (some (← givenMeasure quantity value), after)

/-- How a hole is laid out. -/
structure Layout where
  /-- The flags. -/
  flags : List Char
  /-- The least number of characters. -/
  width : Nat
  /-- The number of digits, or the greatest number of characters. -/
  precision : Option Nat

/-- Whether a flag is set. -/
def Layout.has (layout : Layout) (flag : Char) : Bool := layout.flags.contains flag

/-- A text in a hole: spaces make up its width, on the left unless a minus is set. -/
def Layout.pad (layout : Layout) (text : List Char) : List Char :=
  let space := List.replicate (layout.width - text.length) ' '
  if layout.has '-' then text ++ space else space ++ text

/-- A number in a hole: a sign, a mark of its base, and digits. Zeros make up its width if a zero is
set. -/
def Layout.padNumber (layout : Layout) (negative : Bool) (mark body : List Char) : List Char :=
  let sign : List Char :=
    if negative then ['-']
    else if layout.has '+' then ['+']
    else if layout.has ' ' then [' ']
    else []
  let stem := sign ++ mark
  if layout.has '0' && !layout.has '-' then
    stem ++ List.replicate (layout.width - stem.length - body.length) '0' ++ body
  else layout.pad (stem ++ body)

/-- A text cut to the precision of a hole. -/
def Layout.cut (layout : Layout) (text : List Char) : List Char :=
  match layout.precision with
  | some n => text.take n
  | none => text

/-- A character beyond ASCII as an escape. -/
def escapeWide (c : Char) : List Char :=
  if c.toNat < 0x80 then [c]
  else if c.toNat < 0x100 then '\\' :: 'x' :: hexDigits 2 c.toNat
  else if c.toNat < 0x10000 then '\\' :: 'u' :: hexDigits 4 c.toNat
  else '\\' :: 'U' :: hexDigits 8 c.toNat

/-- An argument as a whole number, its fraction dropped. -/
def wholeOf (conversion : Char) (value : Value) : Except Fault Int :=
  match value with
  | .scalar (.num (.int n)) => .ok n
  | .scalar (.bool b) => .ok b.toNat
  | .scalar (.num (.float x)) =>
    match x with
    | .nan => .error (.template .notANumber)
    | .infinite _ => .error .infinityToInteger
    | x => .ok (x.truncate?.getD 0)
  | other => .error (.template (.notReal conversion other.kind))

/-- An argument as a whole number, which it has to be. -/
def exactWholeOf (conversion : Char) (value : Value) : Except Fault Int :=
  match value with
  | .scalar (.num (.int n)) => .ok n
  | .scalar (.bool b) => .ok b.toNat
  | other => .error (.template (.notWhole conversion other.kind))

/-- An argument as a double. -/
def doubleOf (value : Value) : Except Fault Binary64 :=
  let number : Option Number := match value with
    | .scalar s => s.number?
    | _ => none
  match number with
  | none => .error (.template (.notNumber value.kind))
  | some n =>
    match n.toBinary64? with
    | some x => .ok x
    | none => .error .integerRange

/-- The most digits that a whole number is written with: three less than a precision may say, for
the sign and the mark of the base. -/
def digitBound : Nat := Quantity.precision.bound - 3

/-- A whole number in a base, with a mark of the base if it is asked for. -/
def wholeText (layout : Layout) (mark : String) (base : Nat) (n : Int) :
    Except Fault (List Char) :=
  let count := layout.precision.getD 0
  if digitBound < count then .error (.template .tooManyDigits)
  else
    let ds := Nat.toDigits base n.natAbs
    let ds := List.replicate (count - ds.length) '0' ++ ds
    .ok (layout.padNumber (n < 0) (if layout.has '#' then mark.toList else []) ds)

/-- The digits of a magnitude by the lower-case letter of its notation. -/
def magnitude (layout : Layout) (letter : Char) (units : Nat) : List Char :=
  let precision := layout.precision.getD 6
  let full := layout.has '#'
  match letter with
  | 'f' => Rounded.places units precision full
  | 'e' => Rounded.exponential units precision full
  | _ => Rounded.general units precision full

/-- A double by the lower-case letter of its notation. -/
def doubleText (layout : Layout) (letter : Char) (x : Binary64) : List Char :=
  match x with
  | .nan => layout.padNumber false [] "nan".toList
  | .infinite negative => layout.padNumber negative [] "inf".toList
  | .finite negative units _ => layout.padNumber negative [] (magnitude layout letter units)

/-- An argument as a single character. -/
def charOf (value : Value) : Except Fault (List Char) :=
  match value with
  | .scalar (.str s) =>
    match s.toList with
    | [c] => .ok [c]
    | _ => .error (.template .notChar)
  | .scalar (.num (.int n)) =>
    if 0 ≤ n ∧ n < 0x110000 then .ok [Char.ofNat n.toNat] else .error (.template .charRange)
  | .scalar (.bool b) => .ok [Char.ofNat b.toNat]
  | _ => .error (.template .notChar)

/-- An argument in a hole with a letter, which stands at a position. -/
def fillHole (letter : Char) (position : Nat) (layout : Layout) (value : Value) :
    Except Fault (List Char) :=
  match letter with
  | 's' => .ok (layout.pad (layout.cut value.display.toList))
  | 'r' => .ok (layout.pad (layout.cut value.literal))
  | 'a' => .ok (layout.pad (layout.cut (value.literal.flatMap escapeWide)))
  | 'd' | 'i' | 'u' => (wholeOf letter value).bind (wholeText layout "" 10)
  | 'x' => (exactWholeOf 'x' value).bind (wholeText layout "0x" 16)
  | 'o' => (exactWholeOf 'o' value).bind (wholeText layout "0o" 8)
  | 'X' => (exactWholeOf 'X' value).bind fun n =>
    (wholeText layout "0x" 16 n).map (·.map Char.toUpper)
  | 'c' => (charOf value).map layout.pad
  | letter =>
    if "feg".toList.contains letter then (doubleOf value).map (doubleText layout letter)
    else if "FEG".toList.contains letter then
      (doubleOf value).map fun x => (doubleText layout letter.toLower x).map Char.toUpper
    else .error (.template (.unknownLetter letter position))

/-- How long the text of a hole may get. -/
def lengthBound : Nat := Nat.pow 2 36

/-- A hole with its argument, and the arguments behind it. -/
def fillDirective (hole : Hole) (arguments : Arguments) :
    Except Fault (List Char × Arguments) := do
  let arguments ← match hole.key with
    | some key => arguments.under key
    | none => pure arguments
  let (width, arguments) ← measure .width arguments hole.width
  let (precision, arguments) ← measure .precision arguments hole.precision
  let some letter := hole.letter | throw (.template .unfinished)
  let (value, arguments) ← arguments.next
  let width := width.getD 0
  let flags := if width < 0 then '-' :: hole.flags else hole.flags
  let isLong := lengthBound < width.natAbs
  let layout : Layout := ⟨flags, if isLong then 0 else width.natAbs, precision.map Int.toNat⟩
  let text ← fillHole letter hole.position layout value
  if isLong then throw (.template .tooLong)
  return (text, arguments)

/-- The text of pieces that are filled with arguments. -/
def fillPieces (arguments : Arguments) : List Piece → Except Fault (List Char)
  | [] =>
    if arguments.entries.isNone && !arguments.left.isEmpty then .error (.template .unused)
    else .ok []
  | .char c :: rest => (fillPieces arguments rest).map (c :: ·)
  | .hole hole :: rest => do
    let (text, arguments) ← fillDirective hole arguments
    return text ++ (← fillPieces arguments rest)
  | .openKey :: _ =>
    .error (.template (if arguments.entries.isNone then .needsMap else .openKey))

/-- The arguments of a message: a single map that is not empty is filled by its keys. -/
def argumentsOf (values : List Value) : Arguments :=
  match values with
  | [.map (entry :: rest)] => ⟨some (entry :: rest), values⟩
  | _ => ⟨none, values⟩

/-- The text of a message: its template filled with arguments, or as it is if there are none. -/
def fill (template : String) (values : List Value) : Except Fault String :=
  if values.isEmpty then .ok template
  else (fillPieces (argumentsOf values) (Text.Template.pieces template.toList)).map String.ofList

end StyleTokens.Template
