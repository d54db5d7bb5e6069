import StyleTokens.Text.Case
import StyleTokens.Text.Character
import StyleTokens.Text.Hex
import StyleTokens.Text.Quoted
import StyleTokens.Text.WordTable

/-!
# The lexemes of a literal

The arguments of an action are written as a literal: numbers, texts in quotes, words and marks.
Here a text is divided into them. Brackets have to match; those that are still open at the end are
not the business of this module.
-/

namespace StyleTokens.Terminal

/-- A part of a literal. -/
inductive Lexeme where
  /-- A name or a reserved word. -/
  | word (text : String)
  /-- A number, which may be imaginary. -/
  | number (isImaginary : Bool)
  /-- A text in quotes: whether it is one of bytes, and whether it has places to fill. -/
  | text (isBytes hasPlaces : Bool)
  /-- An opening bracket, which may be a brace. -/
  | opening (isBrace : Bool)
  /-- A closing bracket, which may be a brace. -/
  | closing (isBrace : Bool)
  /-- An operator or another sign. -/
  | mark (text : String)
  deriving DecidableEq, Repr

/-- What keeps a text from being read as a literal. -/
inductive LiteralProblem where
  /-- A character that no text may hold. -/
  | nullCharacter
  /-- A bracket is closed that was not opened. -/
  | unmatched (closing : Char)
  /-- A bracket is closed by one of another kind. -/
  | mismatched (closing opening : Char)
  /-- There are more brackets inside each other than are allowed. -/
  | tooDeep
  /-- A bracket is not closed. -/
  | neverClosed (opening : Char)
  /-- A text in quotes does not end before the line does. -/
  | openText (line : Nat)
  /-- A text in three quotes does not end. -/
  | openLongText (line : Nat)
  /-- A number of some kind does not end well. -/
  | badNumber (kind : String)
  /-- A digit does not exist in numbers of some kind. -/
  | badDigit (digit : Char) (kind : String)
  /-- A number begins with zeros. -/
  | leadingZeros
  /-- A character has no use. -/
  | strayChar (c : Char)
  /-- Something follows a backslash that should end the line. -/
  | behindBackslash
  /-- Texts and texts of bytes stand side by side. -/
  | mixedTexts
  /-- A comma seems to be missing between two values. -/
  | missingComma
  /-- A condition has no alternative. -/
  | missingElse
  /-- A key has no value. -/
  | missingValue
  /-- A key is not followed by a colon. -/
  | missingColon
  /-- A name is given a value where values are expected. -/
  | assigned
  /-- Something that is no name is given a value. -/
  | assignedTo (what : String)
  /-- Something that is no name is defined. -/
  | defined (what : String)
  /-- An argument is given a name that is none. -/
  | namedArgument
  /-- A constant is used as the name of an argument. -/
  | constantArgument (name : String)
  /-- A command of old is used without brackets. -/
  | command (name : String)
  /-- A star has nothing behind it. -/
  | bareStar
  /-- A value is unpacked alone. -/
  | lonelyStar
  /-- A mapping is unpacked alone. -/
  | lonelyStars
  /-- Something stands where it makes no sense. -/
  | misplaced
  /-- The text describes a value that has to be computed. -/
  | notLiteral
  /-- A value of some kind cannot be looked up. -/
  | unhashable (kind : String)
  deriving DecidableEq, Repr

namespace LiteralProblem

/-- The code point of a character in at least four digits. -/
def codePoint (c : Char) : String :=
  let digits := Nat.toDigits 16 c.toNat
  String.ofList ('U' :: '+' :: List.replicate (4 - digits.length) '0' ++ digits.map Char.toUpper)

/-- A character in single quotes. -/
def inQuotes (c : Char) : String := String.ofList ['\'', c, '\'']

/-- The wording of a problem. -/
def message : LiteralProblem → String
  | nullCharacter => "source code string cannot contain null bytes"
  | unmatched closing => "unmatched " ++ inQuotes closing
  | mismatched closing opening =>
    "closing parenthesis " ++ inQuotes closing ++ " does not match opening parenthesis " ++
      inQuotes opening
  | tooDeep => "too many nested parentheses"
  | neverClosed opening => inQuotes opening ++ " was never closed"
  | openText line => "unterminated string literal (detected at line " ++ toString line ++ ")"
  | openLongText line =>
    "unterminated triple-quoted string literal (detected at line " ++ toString line ++ ")"
  | badNumber kind => "invalid " ++ kind ++ " literal"
  | badDigit digit kind => "invalid digit " ++ inQuotes digit ++ " in " ++ kind ++ " literal"
  | leadingZeros =>
    "leading zeros in decimal integer literals are not permitted; " ++
      "use an 0o prefix for octal integers"
  | strayChar c =>
    if Text.isPrintable c then
      "invalid character " ++ inQuotes c ++ " (" ++ codePoint c ++ ")"
    else "invalid non-printable character " ++ codePoint c
  | behindBackslash => "unexpected character after line continuation character"
  | mixedTexts => "cannot mix bytes and nonbytes literals"
  | missingComma => "invalid syntax. Perhaps you forgot a comma?"
  | missingElse => "expected 'else' after 'if' expression"
  | missingValue => "expression expected after dictionary key and ':'"
  | missingColon => "':' expected after dictionary key"
  | assigned => "invalid syntax. Maybe you meant '==' or ':=' instead of '='?"
  | assignedTo what =>
    "cannot assign to " ++ what ++ " here. Maybe you meant '==' instead of '='?"
  | defined what => "cannot use assignment expressions with " ++ what
  | namedArgument => "expression cannot contain assignment, perhaps you meant \"==\"?"
  | constantArgument name => "cannot assign to " ++ name
  | command name =>
    "Missing parentheses in call to '" ++ name ++ "'. Did you mean " ++ name ++ "(...)?"
  | bareStar => "Invalid star expression"
  | lonelyStar => "cannot use starred expression here"
  | lonelyStars => "cannot use double starred expression here"
  | misplaced => "invalid syntax"
  | notLiteral => "malformed node or string on line 1"
  | unhashable kind => "unhashable type: '" ++ kind ++ "'"

/-- Whether the text is not even well formed. -/
def isSyntactic : LiteralProblem → Bool
  | notLiteral | unhashable _ => false
  | _ => true

end LiteralProblem

/-! ### Numbers -/

/-- Whether a character may stand in a word, as far as its bounds are concerned. -/
def inWord (c : Char) : Bool := c.isAlphanum || c == '_' || 0x80 ≤ c.toNat

/-- What follows the digits that a text begins with; single underscores may stand between them. -/
def afterDigits (kind : String) (isDigit : Char → Bool) (needed : Bool) :
    List Char → Except LiteralProblem (List Char)
  | [] => if needed then .error (.badNumber kind) else .ok []
  | c :: rest =>
    if isDigit c then afterDigits kind isDigit false rest
    else if c.isDigit then .error (.badDigit c kind)
    else if needed then .error (.badNumber kind)
    else if c = '_' then afterDigits kind isDigit true rest
    else .ok (c :: rest)

/-- The words that may follow a number without a blank, as far as they are looked at. -/
def wordsBehindNumbers : List String := ["and", "else", "for", "if", "in", "is", "or", "not"]

/-- Demands that a number ends here. -/
def endNumber (kind : String) (isImaginary : Bool) (rest : List Char) :
    Except LiteralProblem (Lexeme × List Char) :=
  if (rest.head?.map fun c => c.isAlphanum || c == '_').getD false &&
    !(wordsBehindNumbers.any fun word => word.toList.isPrefixOf rest) then .error (.badNumber kind)
  else .ok (.number isImaginary, rest)

/-- Reads the digits of a number to another base, behind its letter. -/
def readBased (kind : String) (isDigit : Char → Bool) (text : List Char) :
    Except LiteralProblem (Lexeme × List Char) := do
  let digits := match text with
    | '_' :: rest => rest
    | text => text
  endNumber kind false (← afterDigits kind isDigit true digits)

/-- Whether a text begins with a digit. -/
def beginsWithDigit (text : List Char) : Bool := (text.head?.map Char.isDigit).getD false

/-- What follows the decimal digits that a text begins with. -/
def afterDecimals (text : List Char) : Except LiteralProblem (List Char) :=
  afterDigits "decimal" Char.isDigit true text

/-- What follows a fraction, and whether there is one. -/
def afterFraction : List Char → Except LiteralProblem (Bool × List Char)
  | '.' :: rest =>
    if beginsWithDigit rest then (afterDecimals rest).map (true, ·) else .ok (true, rest)
  | text => .ok (false, text)

/-- What follows an exponent, and whether there is one. -/
def afterExponent : List Char → Except LiteralProblem (Bool × List Char)
  | [] => .ok (false, [])
  | e :: rest =>
    if e = 'e' ∨ e = 'E' then
      match rest with
      | [] => .ok (false, [e])
      | sign :: digits =>
        if sign = '+' ∨ sign = '-' then (afterDecimals digits).map (true, ·)
        else if sign.isDigit then (afterDecimals rest).map (true, ·)
        else .ok (false, e :: rest)
    else .ok (false, e :: rest)

/-- Reads a decimal number. -/
def readDecimal (text : List Char) : Except LiteralProblem (Lexeme × List Char) := do
  let (hasWhole, rest) ←
    if beginsWithDigit text then (afterDecimals text).map (true, ·) else .ok (false, text)
  let whole := text.take (text.length - rest.length)
  let (hasFraction, rest) ← afterFraction rest
  let (hasExponent, rest) ← afterExponent rest
  match rest with
  | 'j' :: rest | 'J' :: rest => endNumber "imaginary" true rest
  | rest =>
    if hasWhole && !hasFraction && !hasExponent && whole.head? == some '0' &&
      whole.any (fun c => c.isDigit && c != '0') then throw .leadingZeros
    else endNumber "decimal" false rest

/-- Reads a number. -/
def readNumber : List Char → Except LiteralProblem (Lexeme × List Char)
  | '0' :: letter :: rest =>
    match letter.toLower with
    | 'x' => readBased "hexadecimal" (fun c => (Text.hexValue? c).isSome) rest
    | 'o' => readBased "octal" (fun c => '0' ≤ c && c ≤ '7') rest
    | 'b' => readBased "binary" (fun c => c = '0' || c = '1') rest
    | _ => readDecimal ('0' :: letter :: rest)
  | text => readDecimal text

/-! ### Texts in quotes -/

/-- What follows a text in quotes, and the line where it ends, or else that where it breaks off. -/
def afterQuoted (quote : Char) (isLong : Bool) (line : Nat) :
    List Char → Except Nat (List Char × Nat)
  | [] => .error line
  | '\\' :: '\n' :: rest => afterQuoted quote isLong (line + 1) rest
  | '\\' :: _ :: rest => afterQuoted quote isLong line rest
  | '\n' :: rest => if isLong then afterQuoted quote isLong (line + 1) rest else .error line
  | c :: rest =>
    if c = quote ∧ (!isLong || [quote, quote].isPrefixOf rest) then
      .ok (if isLong then rest.drop 2 else rest, line)
    else afterQuoted quote isLong line rest

/-- Reads a text in quotes, from the first quote on. -/
def readQuoted (line : Nat) (quote : Char) (rest : List Char) :
    Except LiteralProblem (List Char × Nat) :=
  if [quote, quote].isPrefixOf rest then
    (afterQuoted quote true line (rest.drop 2)).mapError .openLongText
  else (afterQuoted quote false line rest).mapError .openText

/-- The words that may stand before a text in quotes. -/
def textMarkers : List String := ["b", "u", "r", "f", "br", "rb", "fr", "rf"]

/-! ### Words and marks -/

/-- A character of a word that no word may hold. -/
def strayChar? (word : List Char) : Option Char :=
  match word with
  | [] => none
  | first :: rest =>
    if Text.isWordChar first && !Text.isDecimalDigit first then rest.find? (!Text.isWordChar ·)
    else some first

/-- The marks of several characters, the longer ones first. -/
def longMarks : List String :=
  ["**=", "//=", ">>=", "<<=", "...", "!=", "%=", "&=", "**", "*=", "+=", "-=", "->", "//", "/=",
    ":=", "<<", "<=", "<>", "==", ">=", ">>", "@=", "^=", "|="]

/-- Reads a mark. -/
def readMark (c : Char) (rest : List Char) : Except LiteralProblem (Lexeme × List Char) :=
  match longMarks.find? fun mark => mark.toList.isPrefixOf (c :: rest) with
  | some mark => .ok (.mark mark, rest.drop (mark.length - 1))
  | none =>
    match c with
    | '(' => .ok (.opening false, rest)
    | ')' => .ok (.closing false, rest)
    | '{' => .ok (.opening true, rest)
    | '}' => .ok (.closing true, rest)
    | c =>
      if Text.isPrintable c then .ok (.mark (String.singleton c), rest)
      else .error (.strayChar c)

/-- How many brackets may be open at once. -/
def depthLimit : Nat := 200

/-- The brackets that are open behind a mark, the last one first. -/
def nest (isOpen : List Char) (mark : Lexeme) : Except LiteralProblem (List Char) :=
  let close (opening closing : Char) : Except LiteralProblem (List Char) :=
    match isOpen with
    | [] => .error (.unmatched closing)
    | last :: outer =>
      if last = opening then .ok outer else .error (.mismatched closing last)
  let enter (opening : Char) : Except LiteralProblem (List Char) :=
    if depthLimit ≤ isOpen.length then .error .tooDeep else .ok (opening :: isOpen)
  match mark with
  | .opening false => enter '('
  | .opening true => enter '{'
  | .closing false => close '(' ')'
  | .closing true => close '{' '}'
  | _ => .ok isOpen

/-- The state in which a text is divided. -/
structure LexemeReader where
  /-- The brackets that are open, the last one first. -/
  isOpen : List Char
  /-- The number of the line. -/
  line : Nat
  /-- The lexemes so far, the last one first. -/
  lexemes : List Lexeme
  deriving Repr

namespace LexemeReader

/-- Reads a word, or a text in quotes behind it. -/
def readWord (reader : LexemeReader) (text : List Char) :
    Except LiteralProblem (LexemeReader × List Char) := do
  let word := text.takeWhile inWord
  let rest := text.dropWhile inWord
  let marker := Text.lowerString (String.ofList word)
  match textMarkers.contains marker, rest with
  | true, '"' :: behind | true, '\'' :: behind =>
    let (rest, line) ← readQuoted reader.line (rest.headD '"') behind
    let text : Lexeme := .text (marker.contains 'b') (marker.contains 'f')
    return ({ reader with line, lexemes := text :: reader.lexemes }, rest)
  | _, _ =>
    if let some c := strayChar? word then throw (.strayChar c)
    return ({ reader with lexemes := .word (String.ofList word) :: reader.lexemes }, rest)

/-- Reads what a text begins with. Nothing is read behind a backslash that does not end its line. -/
def step (reader : LexemeReader) (c : Char) (rest : List Char) :
    Except LiteralProblem (LexemeReader × List Char) := do
  let add (lexeme : Lexeme) : LexemeReader := { reader with lexemes := lexeme :: reader.lexemes }
  if c = ' ' ∨ c = '\t' ∨ c = '\x0c' then return (reader, rest)
  else if c = '#' then return (reader, rest.dropWhile (· != '\n'))
  else if c = '\n' then
    let next := if reader.isOpen.isEmpty then add (.mark "\n") else reader
    return ({ next with line := reader.line + 1 }, rest)
  else if c = '\\' then
    match rest with
    | '\n' :: rest => return ({ reader with line := reader.line + 1 }, rest)
    | _ => return (add (.mark "\\"), [])
  else if c = '"' ∨ c = '\'' then
    let (rest, line) ← readQuoted reader.line c rest
    return ({ add (.text false false) with line }, rest)
  else if c.isDigit ∨ (c = '.' ∧ beginsWithDigit rest) then
    let (number, rest) ← readNumber (c :: rest)
    return (add number, rest)
  else if inWord c then reader.readWord (c :: rest)
  else
    let (mark, rest) ← readMark c rest
    return ({ add mark with isOpen := ← nest reader.isOpen mark }, rest)

/-- Reads a text in so many steps. -/
def run : Nat → LexemeReader → List Char → Except LiteralProblem LexemeReader
  | 0, reader, _ | _, reader, [] => .ok reader
  | steps + 1, reader, c :: rest => do
    let (reader, rest) ← reader.step c rest
    run steps reader rest

end LexemeReader

/-- The lexemes of a text, and the brackets that are open at its end, the last one first. Every
step of the reader takes at least one character. -/
def lexemesOf (text : List Char) : Except LiteralProblem (List Lexeme × List Char) := do
  if text.contains '\x00' then throw .nullCharacter
  let reader ← LexemeReader.run text.length ⟨[], 1, []⟩ text
  let lexemes := reader.lexemes.dropWhile (· == .mark "\n")
  return (lexemes.reverse, reader.isOpen)

end StyleTokens.Terminal
