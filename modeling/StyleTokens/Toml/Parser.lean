import StyleTokens.Json.Parser
import StyleTokens.Time.Calendar
import StyleTokens.Toml.Table

/-!
# Reading settings files

A settings file is a list of lines: table headers in single or double brackets, assignments of a
value to a dotted key, and comments. Values are strings in one of four quotations, numbers, truth
values, days and times, arrays and inline tables. There are limits to the digits of a decimal whole
number and to the depth of arrays and inline tables.
-/

namespace StyleTokens.Toml

/-- What a reader of a part of the text returns: the part's meaning and the text after it. -/
abbrev Step (α : Type) := Except Refusal (α × List Char)

/-- The text after spaces and tabs. -/
def skipBlank (text : List Char) : List Char := text.dropWhile fun c => c == ' ' || c == '\t'

/-- Whether a character may not stand in a comment or a one-line string. -/
def isControl (c : Char) : Bool := (c.toNat < 0x20 && c != '\t') || c.toNat == 0x7F

/-- The text after a comment, if one begins here; a control character in it is refused. -/
def skipComment (text : List Char) : Option (List Char) :=
  match text with
  | '#' :: rest =>
    let body := rest.takeWhile (· != '\n')
    if body.any isControl then none else some (rest.drop body.length)
  | _ => some text

/-- The text after blanks, line ends and comments. -/
def skipLines : Nat → List Char → Option (List Char)
  | 0, text => some text
  | steps + 1, text =>
    match text.dropWhile fun c => c == ' ' || c == '\t' || c == '\n' with
    | '#' :: rest => (skipComment ('#' :: rest)).bind (skipLines steps)
    | other => some other

/-- Whether a character may stand in a key without quotes. -/
def isBareChar (c : Char) : Bool := c.isAlphanum || c == '_' || c == '-'

/-- The character that a one-letter escape stands for. -/
def letterEscape? : Char → Option Char
  | 'b' => some '\x08'
  | 't' => some '\t'
  | 'n' => some '\n'
  | 'f' => some '\x0c'
  | 'r' => some '\r'
  | '"' => some '"'
  | '\\' => some '\\'
  | _ => none

/-- A numeric escape of the given width at the start of a text. -/
def readCode (width : Nat) (text : List Char) : Option (Char × List Char) :=
  let ds := text.take width
  if ds.length = width then
    (Text.ofHexDigits? ds).bind fun code =>
      if code ≤ 0x10FFFF && !(0xD800 ≤ code && code ≤ 0xDFFF) then
        some (Char.ofNat code, text.drop width) else none
  else none

/-- An escape whose backslash has been read: its text and the text after it. Over several lines,
a backslash at the end of a line takes away all blanks and line ends that follow. -/
def readEscape (multiline : Bool) : List Char → Option (List Char × List Char)
  | [] => none
  | 'u' :: rest => (readCode 4 rest).map fun (c, after) => ([c], after)
  | 'U' :: rest => (readCode 8 rest).map fun (c, after) => ([c], after)
  | c :: rest =>
    match letterEscape? c with
    | some meaning => some ([meaning], rest)
    | none =>
      if multiline && (c == ' ' || c == '\t' || c == '\n') then
        match skipBlank (c :: rest) with
        | '\n' :: after =>
          some ([], after.dropWhile fun d => d == ' ' || d == '\t' || d == '\n')
        | _ => none
      else none

/-- The rest of a string in double quotes. -/
def readBasic (multiline : Bool) : Nat → List Char → Option (List Char × List Char)
  | 0, _ => none
  | steps + 1, text =>
    match text with
    | [] => none
    | '\\' :: rest => do
      let (meaning, here) ← readEscape multiline rest
      let (more, after) ← readBasic multiline steps here
      return (meaning ++ more, after)
    | '"' :: rest =>
      if !multiline then some ([], rest)
      else
        match rest with
        | '"' :: '"' :: '"' :: '"' :: after => some (['"', '"'], after)
        | '"' :: '"' :: '"' :: after => some (['"'], after)
        | '"' :: '"' :: after => some ([], after)
        | _ => (readBasic multiline steps rest).map fun (more, after) => ('"' :: more, after)
    | c :: rest =>
      if isControl c && !(multiline && c == '\n') then none
      else (readBasic multiline steps rest).map fun (more, after) => (c :: more, after)

/-- The rest of a string in single quotes. -/
def readVerbatim (multiline : Bool) : Nat → List Char → Option (List Char × List Char)
  | 0, _ => none
  | steps + 1, text =>
    match text with
    | [] => none
    | '\'' :: rest =>
      if !multiline then some ([], rest)
      else
        match rest with
        | '\'' :: '\'' :: '\'' :: '\'' :: after => some (['\'', '\''], after)
        | '\'' :: '\'' :: '\'' :: after => some (['\''], after)
        | '\'' :: '\'' :: after => some ([], after)
        | _ => (readVerbatim multiline steps rest).map fun (more, after) => ('\'' :: more, after)
    | c :: rest =>
      if isControl c && !(multiline && c == '\n') then none
      else (readVerbatim multiline steps rest).map fun (more, after) => (c :: more, after)

/-- A text without the line end that it begins with. -/
def dropLineEnd : List Char → List Char
  | '\n' :: rest => rest
  | text => text

/-- A string of one of the four quotations at the start of a text. -/
def readText (text : List Char) : Option (List Char × List Char) :=
  let bound := text.length + 1
  match text with
  | '"' :: '"' :: '"' :: rest => readBasic true bound (dropLineEnd rest)
  | '"' :: rest => readBasic false bound rest
  | '\'' :: '\'' :: '\'' :: rest => readVerbatim true bound (dropLineEnd rest)
  | '\'' :: rest => readVerbatim false bound rest
  | _ => none

/-- One part of a key. -/
def readKeyPart (text : List Char) : Option (String × List Char) :=
  let bare := text.takeWhile isBareChar
  if !bare.isEmpty then some (String.ofList bare, text.drop bare.length)
  else
    match text with
    | '"' :: rest =>
      (readBasic false text.length rest).map fun (part, after) => (String.ofList part, after)
    | '\'' :: rest =>
      (readVerbatim false text.length rest).map fun (part, after) => (String.ofList part, after)
    | _ => none

/-- A dotted key and the text after it and any blanks. -/
def readKey : Nat → List Char → Option (Key × List Char)
  | 0, _ => none
  | steps + 1, text => do
    let (part, after) ← readKeyPart text
    match skipBlank after with
    | '.' :: rest =>
      let (parts, final) ← readKey steps (skipBlank rest)
      return (part :: parts, final)
    | rest => return ([part], rest)

/-- Digits with single underscores between them, and the text after them. -/
def readDigits (isDigit : Char → Bool) : List Char → List Char × List Char
  | [] => ([], [])
  | c :: rest =>
    if isDigit c then
      let (ds, after) := readDigits isDigit rest
      (c :: ds, after)
    else if c == '_' then
      match rest with
      | d :: _ =>
        if isDigit d then
          let (ds, after) := readDigits isDigit rest
          (ds, after)
        else ([], c :: rest)
      | [] => ([], c :: rest)
    else ([], c :: rest)

/-- The digits of a run that may not begin with an underscore. -/
def readRun (isDigit : Char → Bool) (text : List Char) : Option (List Char × List Char) :=
  match text with
  | c :: _ => if isDigit c then some (readDigits isDigit text) else none
  | [] => none

/-- A whole number in base 16, 2 or 8. -/
def readPrefixed (text : List Char) : Option (Nat × List Char) :=
  let inBase (base : Nat) (isDigit : Char → Bool) (rest : List Char) :=
    (readRun isDigit rest).map fun (ds, after) =>
      (ds.foldl (fun n c => base * n + (Text.hexValue? c).getD 0) 0, after)
  match text with
  | '0' :: 'x' :: rest => inBase 16 (fun c => (Text.hexValue? c).isSome) rest
  | '0' :: 'b' :: rest => inBase 2 (fun c => c == '0' || c == '1') rest
  | '0' :: 'o' :: rest => inBase 8 (fun c => '0' ≤ c && c ≤ '7') rest
  | _ => none

/-- A decimal numeral: a whole number, or a double when a fraction or an exponent follows. -/
def readDecimal (text : List Char) : Option (Step Number) :=
  let (negative, unsigned) : Bool × List Char :=
    match text with
    | '-' :: rest => (true, rest)
    | '+' :: rest => (false, rest)
    | rest => (false, rest)
  let whole : Option (List Char × List Char) :=
    match unsigned with
    | '0' :: rest => some (['0'], rest)
    | rest => readRun Char.isDigit rest
  whole.map fun (ds, afterWhole) =>
    let (fraction, afterFraction) : List Char × List Char :=
      match afterWhole with
      | '.' :: rest => (readRun Char.isDigit rest).getD ([], afterWhole)
      | _ => ([], afterWhole)
    let (exponent, final) : Int × List Char :=
      match afterFraction with
      | e :: rest =>
        if e == 'e' || e == 'E' then
          let (down, power) : Bool × List Char :=
            match rest with
            | '-' :: more => (true, more)
            | '+' :: more => (false, more)
            | more => (false, more)
          match readRun Char.isDigit power with
          | some (es, after) => (if down then -(ofDigits es : Int) else ofDigits es, after)
          | none => (0, afterFraction)
        else (0, afterFraction)
      | [] => (0, afterFraction)
    if final.length = afterWhole.length then
      if digitLimit < ds.length then .error (.unconvertible (.tooManyDigits ds.length))
      else .ok (.int (if negative then -(ofDigits ds : Int) else ofDigits ds), final)
    else
      .ok (.float ((Decimal.mk (ofDigits (ds ++ fraction)) (exponent - fraction.length)).toBinary64
        negative), final)

/-- The words that are doubles. -/
def doubleWords : List (List Char × Binary64) :=
  [("inf".toList, .infinite false), ("nan".toList, .nan), ("+inf".toList, .infinite false),
    ("-inf".toList, .infinite true), ("+nan".toList, .nan), ("-nan".toList, .nan)]

/-- A fraction of a second at the start of a text, in microseconds; further digits are dropped. -/
def readMicros (text : List Char) : Nat × List Char :=
  match text with
  | '.' :: rest =>
    let ds := rest.takeWhile Char.isDigit
    if ds.isEmpty then (0, text)
    else (microsOf ds, rest.drop ds.length)
  | _ => (0, text)

/-- A time of day at the start of a text. -/
def readClock (text : List Char) : Option (ClockTime × List Char) := do
  let (hour, rest) ← readNumber 2 2 text
  let (minute, rest) ← readNumber 2 2 (← dropChar? ':' rest)
  let (second, rest) ← readNumber 2 2 (← dropChar? ':' rest)
  if hour < 24 && minute < 60 && second < 60 then
    let (micro, rest) := readMicros rest
    return (⟨hour, minute, second, micro⟩, rest)
  else none

/-- A distance from universal time in minutes at the start of a text. -/
def readDistance (text : List Char) : Option (Int × List Char) :=
  match text with
  | 'Z' :: rest => some (0, rest)
  | sign :: rest => do
    if sign ≠ '+' ∧ sign ≠ '-' then none
    let (hours, rest) ← readNumber 2 2 rest
    let (minutes, rest) ← readNumber 2 2 (← dropChar? ':' rest)
    if hours < 24 && minutes < 60 then
      let distance : Int := 60 * hours + minutes
      return (if sign = '-' then -distance else distance, rest)
    else none
  | [] => none

/-- A day at the start of a text, its month and day in their ranges. -/
def readDay (text : List Char) : Option (Date × List Char) := do
  let (year, rest) ← readNumber 4 4 text
  let (month, rest) ← readNumber 2 2 (← dropChar? '-' rest)
  let (day, rest) ← readNumber 2 2 (← dropChar? '-' rest)
  if 1 ≤ month && month ≤ 12 && 1 ≤ day && day ≤ 31 then return (⟨year, month, day⟩, rest)
  else none

/-- The time and the distance from universal time that may follow a day. -/
def readTimeOfDay (text : List Char) : Option (ClockTime × Option Int × List Char) :=
  match text with
  | mark :: rest =>
    if mark = 'T' ∨ mark = 't' ∨ mark = ' ' then
      (readClock rest).map fun (time, after) =>
        match readDistance after with
        | some (distance, final) => (time, some distance, final)
        | none => (time, none, after)
    else none
  | [] => none

/-- A day, a time of day, or both at the start of a text. -/
def readCalendar (text : List Char) : Option (CalendarTime × List Char) :=
  match readDay text with
  | some (date, after) =>
    match readTimeOfDay after with
    | some (time, distance, final) => some (.moment date time distance, final)
    | none => some (.day date, after)
  | none => (readClock text).map fun (time, after) => (.clock time, after)

/-- A value that is neither a string nor a collection. -/
def readAtom (text : List Char) : Step Value :=
  if "true".toList.isPrefixOf text then .ok (.bool true, text.drop 4)
  else if "false".toList.isPrefixOf text then .ok (.bool false, text.drop 5)
  else
    match readCalendar text, readPrefixed text with
    | some (time, after), _ =>
      if time.check.isOk then .ok (.scalar (.calendar time), after) else .error .malformed
    | none, some (n, after) => .ok (.int n, after)
    | none, none =>
      match readDecimal text with
      | some step => step.map fun (n, after) => (.num n, after)
      | none =>
        match doubleWords.find? fun entry => entry.1.isPrefixOf text with
        | some (word, x) => .ok (.float x, text.drop word.length)
        | none => .error .malformed

mutual

/-- A value at the start of a text, with room for so many calls in each other: an array takes two of
them and an inline table three. -/
def readValue (room : Nat) : Nat → List Char → Step Value
  | 0, _ => .error .malformed
  | steps + 1, text =>
    match text with
    | '"' :: _ | '\'' :: _ =>
      match readText text with
      | some (s, after) => .ok (.str (String.ofList s), after)
      | none => .error .malformed
    | '[' :: rest =>
      if room < 2 then .error (.unconvertible (.tooManyCalls .reading))
      else readArray (room - 2) steps rest []
    | '\x7b' :: rest =>
      if room < 3 then .error (.unconvertible (.tooManyCalls .reading))
      else
        match skipBlank rest with
        | '\x7d' :: after => .ok (.map [], after)
        | start => readInline (room - 3) steps start .empty
    | _ => readAtom text

/-- The items of an array and its closing bracket; a comma may follow the last. -/
def readArray (room : Nat) : Nat → List Char → List Value → Step Value
  | 0, _, _ => .error .malformed
  | steps + 1, text, items =>
    match skipLines text.length text with
    | none => .error .malformed
    | some (']' :: after) => .ok (.list items, after)
    | some start =>
      match readValue room steps start with
      | .error refusal => .error refusal
      | .ok (item, after) =>
        match skipLines after.length after with
        | some (',' :: rest) => readArray room steps rest (items ++ [item])
        | some (']' :: rest) => .ok (.list (items ++ [item]), rest)
        | _ => .error .malformed

/-- The entries of an inline table and its closing brace. -/
def readInline (room : Nat) : Nat → List Char → Tables → Step Value
  | 0, _, _ => .error .malformed
  | steps + 1, text, tables =>
    match readKey (text.length + 1) text with
    | some (key, '=' :: rest) =>
      match readValue room steps (skipBlank rest) with
      | .error refusal => .error refusal
      | .ok (value, after) =>
        match tables.assign [] key value with
        | none => .error .malformed
        | some extended =>
          match skipBlank after with
          | ',' :: more => readInline room steps (skipBlank more) extended
          | '\x7d' :: more => .ok (.map extended.entries, more)
          | _ => .error .malformed
    | _ => .error .malformed

end

/-- The rest of a header whose opening brackets have been read, closed by the given ones. -/
def readHeader (closing : List Char) (text : List Char) : Option (Key × List Char) :=
  match readKey (text.length + 1) (skipBlank text) with
  | some (key, after) =>
    if closing.isPrefixOf after then some (key, after.drop closing.length) else none
  | none => none

/-- One statement, under the header in force: the tables, the header after it and the text left. -/
def readStatement (tables : Tables) (header : Key) (text : List Char) :
    Step (Tables × Key) :=
  match text with
  | '[' :: '[' :: rest =>
    match readHeader [']', ']'] rest with
    | some (key, after) =>
      match tables.declareItem key with
      | some extended => .ok ((extended, key), after)
      | none => .error .malformed
    | none => .error .malformed
  | '[' :: rest =>
    match readHeader [']'] rest with
    | some (key, after) =>
      match tables.declare key with
      | some extended => .ok ((extended, key), after)
      | none => .error .malformed
    | none => .error .malformed
  | '#' :: _ => .ok ((tables, header), text)
  | _ =>
    match readKey (text.length + 1) text with
    | some (key, '=' :: rest) =>
      match readValue callLimit (2 * rest.length + 2) (skipBlank rest) with
      | .error refusal => .error refusal
      | .ok (value, after) =>
        match tables.assign header key value with
        | some extended => .ok ((extended, header), after)
        | none => .error .malformed
    | _ => .error .malformed

/-- The statements of a text, one a line. -/
def readStatements : Nat → Tables → Key → List Char → Except Refusal Tables
  | 0, _, _, _ => .error .malformed
  | steps + 1, tables, header, text =>
    match skipBlank text with
    | [] => .ok tables
    | '\n' :: rest => readStatements steps tables header rest
    | start =>
      match readStatement tables header start with
      | .error refusal => .error refusal
      | .ok ((extended, current), after) =>
        match skipComment (skipBlank after) with
        | some [] => .ok extended
        | some ('\n' :: rest) => readStatements steps extended current rest
        | _ => .error .malformed

/-- The table that a whole text denotes. -/
def parse (text : String) : Except Refusal Value.Entries :=
  (readStatements (text.toList.length + 1) .empty [] text.toList).map Tables.entries

end StyleTokens.Toml
