import StyleTokens.Yaml.Cursor

/-!
# Quoted and plain text

Scalars may run over several lines: a single line end reads as a space, further ones are kept, and
the space around them is dropped. Single quotes are doubled inside single quotes, and a backslash
escapes inside double quotes.
-/

namespace StyleTokens.Yaml

/-- The meaning of a one-letter escape. -/
def letterEscape? : Char → Option Char
  | '0' => some '\x00'
  | 'a' => some '\x07'
  | 'b' => some '\x08'
  | 't' => some '\t'
  | '\t' => some '\t'
  | 'n' => some '\n'
  | 'v' => some '\x0b'
  | 'f' => some '\x0c'
  | 'r' => some '\r'
  | 'e' => some '\x1b'
  | ' ' => some ' '
  | '"' => some '"'
  | '/' => some '/'
  | '\\' => some '\\'
  | 'N' => some '\u0085'
  | '_' => some '\u00a0'
  | 'L' => some '\u2028'
  | 'P' => some '\u2029'
  | _ => none

/-- How many hexadecimal digits a numeric escape has. -/
def numericEscape? : Char → Option Nat
  | 'x' => some 2
  | 'u' => some 4
  | 'U' => some 8
  | _ => none

/-- The text of a run of line ends: the first reads as a space when no other follows. -/
def foldedBreaks (count : Nat) : List Char :=
  if count = 1 then [' '] else List.replicate (count - 1) '\n'

/-- Line ends and the space around them: how many line ends there are, and the position after
them. A document edge among them is refused. -/
def readBreaks : Nat → Nat → Cursor → Option (Nat × Cursor)
  | 0, _, _ => none
  | steps + 1, count, cursor =>
    if cursor.atDocumentEdge then none
    else
      let here := cursor.advance (cursor.rest.takeWhile fun c => c == ' ' || c == '\t').length
      match here.rest with
      | c :: _ => if isBreak c then readBreaks steps (count + 1) here.step else some (count, here)
      | [] => some (count, here)

/-- A gap inside quotes: spaces alone are kept, line ends fold. -/
def readQuotedGap (cursor : Cursor) : Option (List Char × Cursor) :=
  let spaces := cursor.rest.takeWhile fun c => c == ' ' || c == '\t'
  let here := cursor.advance spaces.length
  match here.rest with
  | c :: _ =>
    if isBreak c then
      (readBreaks (here.rest.length + 1) 1 here.step).map fun (count, after) =>
        (foldedBreaks count, after)
    else some (spaces, here)
  | [] => none

/-- The rest of a single-quoted text whose opening quote has been read. -/
def readSingle : Nat → Cursor → Option (List Char × Cursor)
  | 0, _ => none
  | steps + 1, cursor =>
    match cursor.rest with
    | [] => none
    | '\'' :: '\'' :: _ => do
      let (text, after) ← readSingle steps (cursor.advance 2)
      return ('\'' :: text, after)
    | '\'' :: _ => some ([], cursor.advance 1)
    | c :: _ =>
      if isGap c then do
        let (gap, here) ← readQuotedGap cursor
        let (text, after) ← readSingle steps here
        return (gap ++ text, after)
      else do
        let (text, after) ← readSingle steps (cursor.advance 1)
        return (c :: text, after)

/-- An escape whose backslash has been read: its text and the position after it. -/
def readEscape (cursor : Cursor) : Option (List Char × Cursor) :=
  match cursor.rest with
  | [] => none
  | c :: rest =>
    match letterEscape? c, numericEscape? c with
    | some meaning, _ => some ([meaning], cursor.advance 1)
    | none, some width =>
      let ds := rest.take width
      if ds.length = width then
        (Text.ofHexDigits? ds).bind fun code =>
          if code ≤ 0x10FFFF then some ([Json.unitChar code], cursor.advance (1 + width)) else none
      else none
    | none, none =>
      if isBreak c then
        (readBreaks (rest.length + 1) 1 cursor.step).map fun (count, after) =>
          (List.replicate (count - 1) '\n', after)
      else none

/-- The rest of a double-quoted text whose opening quote has been read. -/
def readDouble : Nat → Cursor → Option (List Char × Cursor)
  | 0, _ => none
  | steps + 1, cursor =>
    match cursor.rest with
    | [] => none
    | '"' :: _ => some ([], cursor.advance 1)
    | '\\' :: _ => do
      let (meaning, here) ← readEscape (cursor.advance 1)
      let (text, after) ← readDouble steps here
      return (meaning ++ text, after)
    | c :: _ =>
      if isGap c then do
        let (gap, here) ← readQuotedGap cursor
        let (text, after) ← readDouble steps here
        return (gap ++ text, after)
      else do
        let (text, after) ← readDouble steps (cursor.advance 1)
        return (c :: text, after)

/-- Whether a plain scalar may begin with the given characters. -/
def startsPlain (inFlow : Bool) : List Char → Bool
  | [] => false
  | c :: rest =>
    if isGap c then false
    else if c == '-' then !startsGap rest
    else if c == '?' || c == ':' then !inFlow && !startsGap rest
    else !("-?:,[]\x7b\x7d#&*!|>'\"%@\x60".toList.contains c)

/-- Whether a plain scalar ends before the given characters. -/
def endsPlain (inFlow : Bool) : List Char → Bool
  | [] => true
  | c :: rest =>
    isGap c ||
      (c == ':' && (startsGap rest ||
        (inFlow && (rest.head?.any fun d => ",[]\x7b\x7d".toList.contains d)))) ||
      (inFlow && ",?[]\x7b\x7d".toList.contains c)

/-- The characters of a plain scalar up to the next gap or end. -/
def plainRun (inFlow : Bool) : List Char → List Char
  | [] => []
  | c :: rest => if endsPlain inFlow (c :: rest) then [] else c :: plainRun inFlow rest

/-- Line ends between two lines of a plain scalar: how many there are, and the position after
them. -/
def readPlainBreaks : Nat → Nat → Cursor → Option (Nat × Cursor)
  | 0, _, _ => none
  | steps + 1, count, cursor =>
    if cursor.atDocumentEdge then none
    else
      let here := cursor.skipSpaces
      match here.rest with
      | c :: _ =>
        if isBreak c then readPlainBreaks steps (count + 1) here.step else some (count, here)
      | [] => some (count, here)

/-- What may stand between two runs of a plain scalar, as text, and the position after it. -/
def readPlainGap (cursor : Cursor) : Option (List Char × Cursor) :=
  let here := cursor.skipSpaces
  match here.rest with
  | c :: _ =>
    if isBreak c then
      (readPlainBreaks (here.rest.length + 1) 1 here.step).map fun (count, after) =>
        (foldedBreaks count, after)
    else if here.column = cursor.column then none
    else some (List.replicate (here.column - cursor.column) ' ', here)
  | [] => none

/-- A plain scalar and the position after it; its further lines begin at the given column or
beyond. -/
def readPlain (inFlow : Bool) (indent : Nat) : Nat → Cursor → List Char × Cursor
  | 0, cursor => ([], cursor)
  | steps + 1, cursor =>
    let run := plainRun inFlow cursor.rest
    let here := cursor.advance run.length
    match readPlainGap here with
    | none => (run, here)
    | some (gap, next) =>
      if next.rest.head? == some '#' || (!inFlow && next.column < indent) ||
          endsPlain inFlow next.rest then (run, here)
      else
        let (more, after) := readPlain inFlow indent steps next
        (run ++ gap ++ more, after)

end StyleTokens.Yaml
