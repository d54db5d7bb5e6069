import StyleTokens.Text.Hex
import StyleTokens.Value.Basic
import StyleTokens.Value.Refusal

/-!
# Reading JSON

The documents read here are standard JSON, with `NaN`, `Infinity` and `-Infinity` as further
numbers. A repeated key keeps its first place and its last value. There are limits to the digits of
a whole number and to the depth of lists and maps.
-/

namespace StyleTokens.Json

/-- How many lists and maps may stand in each other. -/
def depthLimit : Nat := 980

/-- What a reader of a part of the text returns: the part's meaning and the text after it. -/
abbrev Step (α : Type) := Except Refusal (α × List Char)

/-- Whether a character may stand between tokens. -/
def isSpace (c : Char) : Bool := c == ' ' || c == '\t' || c == '\n' || c == '\r'

/-- The text after any space it begins with. -/
def skipSpace (text : List Char) : List Char := text.dropWhile isSpace

/-- The character that a one-letter escape stands for. -/
def simpleEscape? (c : Char) : Option Char :=
  if c = '"' ∨ c = '\\' ∨ c = '/' then some c
  else if c = 'b' then some '\x08'
  else if c = 'f' then some '\x0c'
  else if c = 'n' then some '\n'
  else if c = 'r' then some '\r'
  else if c = 't' then some '\t'
  else none

/-- Whether a code unit is the first half of a surrogate pair. -/
def isHighSurrogate (unit : Nat) : Bool := 0xD800 ≤ unit && unit ≤ 0xDBFF

/-- Whether a code unit is the second half of a surrogate pair. -/
def isLowSurrogate (unit : Nat) : Bool := 0xDC00 ≤ unit && unit ≤ 0xDFFF

/-- The character that a surrogate pair encodes. -/
def pairChar (high low : Nat) : Char :=
  Char.ofNat (0x10000 + (high - 0xD800) * 0x400 + (low - 0xDC00))

/-- The character of a code unit that stands alone; half a pair has none and is replaced. -/
def unitChar (unit : Nat) : Char :=
  if 0xD800 ≤ unit ∧ unit ≤ 0xDFFF then '\ufffd' else Char.ofNat unit

/-- A four-digit escape at the start of a text: its code unit and the text after it. -/
def readUnit : List Char → Option (Nat × List Char)
  | a :: b :: c :: d :: rest => (Text.ofHexDigits? [a, b, c, d]).map fun unit => (unit, rest)
  | _ => none

/-- An escape, its backslash already read: its character and the text after it. -/
def readEscape : List Char → Option (Char × List Char)
  | [] => none
  | 'u' :: rest => do
    let (unit, after) ← readUnit rest
    if isHighSurrogate unit then
      match after with
      | '\\' :: 'u' :: more =>
        let (low, final) ← readUnit more
        if isLowSurrogate low then return (pairChar unit low, final)
        else return (unitChar unit, after)
      | _ => return (unitChar unit, after)
    else return (unitChar unit, after)
  | c :: rest => (simpleEscape? c).map fun meaning => (meaning, rest)

/-- The rest of a string whose opening quote has been read. Every step consumes a character, so
the length of the text bounds the number of steps. -/
def readString : Nat → List Char → Step (List Char)
  | 0, _ => .error .malformed
  | _ + 1, [] => .error .malformed
  | steps + 1, c :: rest =>
    if c = '"' then .ok ([], rest)
    else if c = '\\' then
      match readEscape rest with
      | none => .error .malformed
      | some (meaning, after) =>
        (readString steps after).map fun (text, final) => (meaning :: text, final)
    else if c.toNat < 0x20 then .error .malformed
    else (readString steps rest).map fun (text, final) => (c :: text, final)

/-- The digits that a text begins with, and the text after them. -/
def spanDigits (text : List Char) : List Char × List Char := text.span Char.isDigit

/-- A fraction at the start of a text: its digits and the text after it. -/
def readFraction : List Char → Option (List Char × List Char)
  | '.' :: rest =>
    match spanDigits rest with
    | ([], _) => none
    | (ds, after) => some (ds, after)
  | _ => none

/-- An exponent at the start of a text: its value and the text after it. -/
def readExponent : List Char → Option (Int × List Char)
  | c :: rest =>
    if c = 'e' ∨ c = 'E' then
      let (negative, unsigned) : Bool × List Char :=
        match rest with
        | '-' :: more => (true, more)
        | '+' :: more => (false, more)
        | more => (false, more)
      match spanDigits unsigned with
      | ([], _) => none
      | (ds, after) => some (if negative then -(ofDigits ds : Int) else ofDigits ds, after)
    else none
  | [] => none

/-- The whole part of a numeral: a lone zero, or digits that begin with another one. -/
def readWhole : List Char → Option (List Char × List Char)
  | '0' :: rest => some (['0'], rest)
  | text =>
    match spanDigits text with
    | ([], _) => none
    | (ds, after) => some (ds, after)

/-- A numeral without its sign. With a fraction or an exponent it is a double, otherwise a whole
number. -/
def readUnsigned (negative : Bool) (text : List Char) : Step Number :=
  match readWhole text with
  | none => .error .malformed
  | some (whole, afterWhole) =>
    let (fraction, afterFraction) := (readFraction afterWhole).getD ([], afterWhole)
    let (exponent, final) := (readExponent afterFraction).getD (0, afterFraction)
    if final.length = afterWhole.length then
      if digitLimit < whole.length then .error (.unconvertible (.tooManyDigits whole.length))
      else
        let n : Int := ofDigits whole
        .ok (.int (if negative then -n else n), final)
    else
      let decimal : Decimal := ⟨ofDigits (whole ++ fraction), exponent - fraction.length⟩
      .ok (.float (decimal.toBinary64 negative), final)

/-- The words that are values. -/
def literals : List (List Char × Scalar) :=
  [("null".toList, .null), ("true".toList, .bool true), ("false".toList, .bool false),
    ("NaN".toList, .num (.float .nan)), ("Infinity".toList, .num (.float (.infinite false))),
    ("-Infinity".toList, .num (.float (.infinite true)))]

/-- A word that is a value, at the start of a text. -/
def readLiteral (text : List Char) : Option (Scalar × List Char) :=
  literals.findSome? fun (word, meaning) =>
    if word.isPrefixOf text then some (meaning, text.drop word.length) else none

/-- A number or a word at the start of a text. -/
def readAtom (text : List Char) : Step Scalar :=
  match readLiteral text with
  | some result => .ok result
  | none =>
    let (negative, unsigned) : Bool × List Char :=
      match text with
      | '-' :: rest => (true, rest)
      | rest => (false, rest)
    (readUnsigned negative unsigned).map fun (n, rest) => (.num n, rest)

/-- The rest of a key whose opening quote has been read, and the colon after it. -/
def readKey (opened : List Char) : Step Scalar :=
  match readString opened.length.succ opened with
  | .error refusal => .error refusal
  | .ok (name, after) =>
    match skipSpace after with
    | ':' :: rest => .ok (.str (String.ofList name), rest)
    | _ => .error .malformed

mutual

/-- A value at the start of a text, space before it allowed, with room for so many lists and maps in
each other. Reading a value, the rest of a list or the rest of a map takes one of the given steps
each. -/
def readValue (room : Nat) : Nat → List Char → Step Value
  | 0, _ => .error .malformed
  | steps + 1, text =>
    match skipSpace text with
    | '"' :: rest => (readString rest.length.succ rest).map fun (s, after) =>
        (.str (String.ofList s), after)
    | '[' :: rest =>
      if room = 0 then .error (.unconvertible (.tooDeep false))
      else
        match skipSpace rest with
        | ']' :: after => .ok (.list [], after)
        | _ => (readItems (room - 1) steps rest).map fun (items, after) => (.list items, after)
    | '\x7b' :: rest =>
      if room = 0 then .error (.unconvertible (.tooDeep true))
      else
        match skipSpace rest with
        | '\x7d' :: after => .ok (.map [], after)
        | _ => (readMembers (room - 1) steps rest).map fun (pairs, after) =>
            (.map (Value.Entries.ofPairs pairs), after)
    | atom => (readAtom atom).map fun (s, after) => (.scalar s, after)

/-- The items of a list that is not empty, and its closing bracket. -/
def readItems (room : Nat) : Nat → List Char → Step (List Value)
  | 0, _ => .error .malformed
  | steps + 1, text =>
    match readValue room steps text with
    | .error refusal => .error refusal
    | .ok (item, after) =>
      match skipSpace after with
      | ',' :: rest => (readItems room steps rest).map fun (items, final) => (item :: items, final)
      | ']' :: final => .ok ([item], final)
      | _ => .error .malformed

/-- The members of a map that is not empty, and its closing brace. -/
def readMembers (room : Nat) : Nat → List Char → Step (List (Scalar × Value))
  | 0, _ => .error .malformed
  | steps + 1, text =>
    match skipSpace text with
    | '"' :: opened =>
      match readKey opened with
      | .error refusal => .error refusal
      | .ok (key, rest) =>
        match readValue room steps rest with
        | .error refusal => .error refusal
        | .ok (value, after) =>
          match skipSpace after with
          | ',' :: more =>
            (readMembers room steps more).map fun (members, final) =>
              ((key, value) :: members, final)
          | '\x7d' :: final => .ok ([(key, value)], final)
          | _ => .error .malformed
    | _ => .error .malformed

end

/-- The value that a whole text denotes. Of two steps in a row one consumes a character, so twice
the length of the text bounds the number of steps. -/
def parse (text : String) : Except Refusal Value :=
  match readValue depthLimit (2 * text.toList.length + 2) text.toList with
  | .error refusal => .error refusal
  | .ok (value, rest) => if (skipSpace rest).isEmpty then .ok value else .error .malformed

end StyleTokens.Json
