import StyleTokens.Json.Parser
import StyleTokens.Text.Lines
import StyleTokens.Time.Calendar

/-!
# Plain scalars

A plain scalar of a YAML document is a truth value, null, a whole number, a double, a day or time,
or a text, by its spelling. Whole numbers may be binary, octal, hexadecimal or in base sixty,
doubles need a point, and underscores may separate digits.

A plain scalar that begins with a year is a day or a time on a day, if it has the form of one. A
day alone has two digits for its month and for its day; with a time one digit is enough. The
distance from universal time may follow.
-/

namespace StyleTokens.Yaml

/-! ### Timestamps -/

/-- The text after spaces and tabs. -/
def skipBlank (text : List Char) : List Char := text.dropWhile fun c => c == ' ' || c == '\t'

/-- A fraction of a second, whose digits may be missing, and the text after it. -/
def readFraction : List Char → Nat × List Char
  | '.' :: rest => (microsOf (rest.takeWhile Char.isDigit), rest.dropWhile Char.isDigit)
  | text => (0, text)

/-- A whole text as the distance from universal time in minutes; an empty one gives none. -/
def distance? : List Char → Option (Option Int)
  | [] => some none
  | ['Z'] => some (some 0)
  | sign :: text => do
    if sign ≠ '+' ∧ sign ≠ '-' then none
    let (hours, rest) ← readNumber 1 2 text
    let minutes ← if rest.isEmpty then some 0 else do
      let (minutes, final) ← readNumber 2 2 (← dropChar? ':' rest)
      if final.isEmpty then some minutes else none
    let ahead : Int := 60 * hours + minutes
    return some (if sign = '-' then -ahead else ahead)

/-- The text of the time of day, if a mark of one comes first: a letter, or blanks. -/
def dropTimeMark? : List Char → Option (List Char)
  | [] => none
  | c :: rest =>
    if c == 'T' || c == 't' then some rest
    else if c == ' ' || c == '\t' then some (skipBlank rest)
    else none

/-- A day or a time on a day by its spelling; whether the calendar has it is not asked. -/
def timestamp? (text : List Char) : Option CalendarTime := do
  let (year, rest) ← readNumber 4 4 text
  let (month, afterMonth) ← readNumber 1 2 (← dropChar? '-' rest)
  let (day, afterDay) ← readNumber 1 2 (← dropChar? '-' afterMonth)
  let date : Date := ⟨year, month, day⟩
  if afterDay.isEmpty then
    if text.length = 10 then some (.day date) else none
  else
    let (hour, rest) ← readNumber 1 2 (← dropTimeMark? afterDay)
    let (minute, rest) ← readNumber 2 2 (← dropChar? ':' rest)
    let (second, rest) ← readNumber 2 2 (← dropChar? ':' rest)
    let (micro, rest) := readFraction rest
    let ahead ← distance? (skipBlank rest)
    return .moment date ⟨hour, minute, second, micro⟩ ahead

/-! ### Words and numbers -/

/-- The spellings of true. -/
def trueWords : List String := ["yes", "Yes", "YES", "true", "True", "TRUE", "on", "On", "ON"]

/-- The spellings of false. -/
def falseWords : List String := ["no", "No", "NO", "false", "False", "FALSE", "off", "Off", "OFF"]

/-- The spellings of null. -/
def nullWords : List String := ["", "~", "null", "Null", "NULL"]

/-- A sign at the start of a text, and the text after it. -/
def splitSign : List Char → Bool × List Char
  | '-' :: rest => (true, rest)
  | '+' :: rest => (false, rest)
  | text => (false, text)

/-- Whether a text consists of the given characters and underscores. -/
def onlyDigits (isDigit : Char → Bool) (text : List Char) : Bool :=
  text.all fun c => isDigit c || c == '_'

/-- A text without its underscores. -/
def dropUnderscores (text : List Char) : List Char := text.filter (· != '_')

/-- Whether a text is a decimal digit, then digits and underscores. -/
def isDigitRun : List Char → Bool
  | c :: rest => c.isDigit && onlyDigits Char.isDigit rest
  | [] => false

/-- The number that digits denote in a base. -/
def ofBase (base : Nat) (ds : List Char) : Nat :=
  ds.foldl (fun n c => base * n + (Text.hexValue? c).getD 0) 0

/-- Whether a text is a place of a base-sixty number: one digit, or two below sixty. -/
def isSixtyPlace : List Char → Bool
  | [c] => c.isDigit
  | [a, b] => '0' ≤ a && a ≤ '5' && b.isDigit
  | _ => false

/-- The number that places in base sixty denote. -/
def ofSixties (parts : List (List Char)) : Nat :=
  parts.foldl (fun n part => 60 * n + ofDigits (dropUnderscores part)) 0

/-- A numeral of a whole number without its sign. -/
def wholeNumber? (text : List Char) : Option (Except Nat Nat) :=
  match text with
  | '0' :: 'b' :: ds =>
    if !ds.isEmpty && onlyDigits (fun c => c == '0' || c == '1') ds then
      some (.ok (ofBase 2 (dropUnderscores ds))) else none
  | '0' :: 'x' :: ds =>
    if !ds.isEmpty && onlyDigits (fun c => (Text.hexValue? c).isSome) ds then
      some (.ok (ofBase 16 (dropUnderscores ds))) else none
  | ['0'] => some (.ok 0)
  | '0' :: ds =>
    if onlyDigits (fun c => '0' ≤ c && c ≤ '7') ds then
      some (.ok (ofBase 8 (dropUnderscores ds))) else none
  | ds =>
    let parts := Text.splitWhere (· == ':') ds
    match parts with
    | [only] =>
      if isDigitRun only then
        let kept := dropUnderscores only
        some (if digitLimit < kept.length then .error kept.length else .ok (ofDigits kept))
      else none
    | first :: others =>
      if isDigitRun first && others.all isSixtyPlace then some (.ok (ofSixties parts)) else none
    | [] => none

/-- A signed exponent, or nothing at all. -/
def exponentOf? : List Char → Option Int
  | [] => some 0
  | e :: sign :: ds =>
    if (e == 'e' || e == 'E') && (sign == '-' || sign == '+') && !ds.isEmpty && ds.all Char.isDigit
    then some (if sign == '-' then -(ofDigits ds : Int) else ofDigits ds)
    else none
  | _ => none

/-- A numeral of a double without its sign; a sign in front of a leading point is none. -/
def double? (signed negative : Bool) (text : List Char) : Option Binary64 :=
  if [".inf", ".Inf", ".INF"].any (·.toList == text) then some (.infinite negative)
  else if !signed && [".nan", ".NaN", ".NAN"].any (·.toList == text) then some .nan
  else
    let whole := text.takeWhile (· != '.')
    match text.dropWhile (· != '.') with
    | [] => none
    | _ :: afterPoint =>
      let fraction := afterPoint.takeWhile fun c => c.isDigit || c == '_'
      let rest := afterPoint.drop fraction.length
      let digitsOf := dropUnderscores fraction
      if whole.isEmpty then
        if signed || !isDigitRun fraction then none
        else (exponentOf? rest).map fun e =>
          (Decimal.mk (ofDigits digitsOf) (e - digitsOf.length)).toBinary64 negative
      else if isDigitRun whole then
        (exponentOf? rest).map fun e =>
          let places := dropUnderscores whole ++ digitsOf
          (Decimal.mk (ofDigits places) (e - digitsOf.length)).toBinary64 negative
      else
        match Text.splitWhere (· == ':') whole with
        | first :: others =>
          if isDigitRun first && !others.isEmpty && others.all isSixtyPlace && rest.isEmpty then
            some ((Decimal.mk
              (ofSixties (first :: others) * Nat.pow 10 digitsOf.length + ofDigits digitsOf)
              (-(digitsOf.length : Int))).toBinary64 negative)
          else none
        | [] => none

/-- The scalar that a plain spelling denotes. -/
def plainScalar (text : List Char) : Except Refusal Scalar :=
  let word := String.ofList text
  if nullWords.contains word then .ok .null
  else if trueWords.contains word then .ok (.bool true)
  else if falseWords.contains word then .ok (.bool false)
  else
    let (negative, unsigned) := splitSign text
    match wholeNumber? unsigned with
    | some (.ok n) => .ok (.num (.int (if negative then -(n : Int) else n)))
    | some (.error count) => .error (.unconvertible (.tooManyDigits count))
    | none =>
      match double? (unsigned.length != text.length) negative unsigned with
      | some x => .ok (.num (.float x))
      | none =>
        match timestamp? text with
        | none => .ok (.str word)
        | some time =>
          match time.check with
          | .ok () => .ok (.calendar time)
          | .error problem => .error (.unconvertible (.calendar problem))

end StyleTokens.Yaml
