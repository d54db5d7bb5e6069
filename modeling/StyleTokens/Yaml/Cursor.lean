import StyleTokens.Yaml.Scalar

/-!
# Reading position

A document is read character by character. The reading position knows its column, since block
structure is a matter of columns, and its line, since a key must stand on one line.
-/

namespace StyleTokens.Yaml

/-- A position in a document. -/
structure Cursor where
  /-- The characters still to be read. -/
  rest : List Char
  /-- How many characters of the current line have been read. -/
  column : Nat
  /-- How many lines have been read. -/
  line : Nat

/-- Whether a character ends a line. -/
def isBreak (c : Char) : Bool :=
  c == '\n' || c == '\r' || c == '\u0085' || c == '\u2028' || c == '\u2029'

/-- Whether a character ends a plain scalar, or separates an indicator from what follows. -/
def isGap (c : Char) : Bool := c == ' ' || c == '\t' || isBreak c

/-- Whether nothing, or a character that separates, comes first. -/
def startsGap : List Char → Bool
  | [] => true
  | c :: _ => isGap c

/-- Whether a character may stand in a document at all. -/
def isAllowed (c : Char) : Bool :=
  let n := c.toNat
  n == 0x09 || n == 0x0A || n == 0x0D || (0x20 ≤ n && n ≤ 0x7E) || n == 0x85 ||
    (0xA0 ≤ n && n ≤ 0xD7FF) || (0xE000 ≤ n && n ≤ 0xFFFD) || (0x10000 ≤ n && n ≤ 0x10FFFF)

namespace Cursor

/-- The start of a document; a byte order mark is passed over. -/
def ofChars : List Char → Cursor
  | '\ufeff' :: rest => ⟨rest, 0, 0⟩
  | text => ⟨text, 0, 0⟩

/-- One character further. -/
def step (cursor : Cursor) : Cursor :=
  match cursor.rest with
  | [] => cursor
  | c :: rest =>
    if isBreak c then ⟨rest, 0, cursor.line + 1⟩ else ⟨rest, cursor.column + 1, cursor.line⟩

/-- A number of characters further, on the same line. -/
def advance (cursor : Cursor) (count : Nat) : Cursor :=
  ⟨cursor.rest.drop count, cursor.column + count, cursor.line⟩

/-- Past the spaces at the position. -/
def skipSpaces (cursor : Cursor) : Cursor :=
  cursor.advance (cursor.rest.takeWhile (· == ' ')).length

/-- The position of the next token in a text that begins at the given column and line, inside a
comment or outside. -/
def tokenFrom (inComment : Bool) : List Char → Nat → Nat → Cursor
  | [], column, line => ⟨[], column, line⟩
  | c :: rest, column, line =>
    if isBreak c then tokenFrom false rest 0 (line + 1)
    else if inComment || c == ' ' then tokenFrom inComment rest (column + 1) line
    else if c == '#' then tokenFrom true rest (column + 1) line
    else ⟨c :: rest, column, line⟩

/-- The next token's position, past spaces, comments and line ends. -/
def toToken (cursor : Cursor) : Cursor := tokenFrom false cursor.rest cursor.column cursor.line

/-- Whether a marker of three characters that starts or ends a document stands here. -/
def atMarker (cursor : Cursor) (marker : String) : Bool :=
  cursor.column == 0 && marker.toList.isPrefixOf cursor.rest && startsGap (cursor.rest.drop 3)

/-- Whether a document starts or ends here. -/
def atDocumentEdge (cursor : Cursor) : Bool := cursor.atMarker "---" || cursor.atMarker "..."

end Cursor

end StyleTokens.Yaml
