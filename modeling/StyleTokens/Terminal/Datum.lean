import StyleTokens.Terminal.Phrase

/-!
# The values of literals

Lexemes that make up values are a literal if nothing has to be computed: they are numbers, texts,
constants, and lists, sets and mappings of literals. What is looked up, as a key or as a member of
a set, must be a value that can be.
-/

namespace StyleTokens.Terminal

/-- What matters of a literal. -/
inductive Datum where
  /-- A number. -/
  | real
  /-- An imaginary or a complex number. -/
  | complex
  /-- Anything else that can be looked up. -/
  | plain
  /-- A value that cannot be looked up because of a part of some kind. -/
  | unkeyed (kind : String)
  deriving DecidableEq, Repr

namespace Datum

/-- Demands that a value can be looked up. -/
def checkKey : Datum → Except LiteralProblem Unit
  | unkeyed kind => .error (.unhashable kind)
  | _ => .ok ()

/-- A list of values, which can be looked up if each of them can be. -/
def ofList (items : List Datum) : Datum :=
  (items.find? fun item => item.checkKey.isOk.not).getD .plain

end Datum

/-- The values that lexemes begin with, and what follows. -/
abbrev DatumReader (α : Type) := List Lexeme → Except LiteralProblem (α × List Lexeme)

/-- Reads the texts that lexemes begin with; they are all of bytes or none is. -/
def readTexts (isBytes : Bool) : DatumReader Datum
  | .text other hasPlaces :: rest =>
    if other != isBytes then .error .mixedTexts
    else if hasPlaces then .error .notLiteral
    else readTexts isBytes rest
  | rest => .ok (.plain, rest)

/-- A value and an imaginary number that is added to it or subtracted from it. -/
def addImaginary (read : DatumReader Datum) (first : Datum) : DatumReader Datum
  | .mark sign :: rest => do
    if first = .real ∧ (sign = "+" ∨ sign = "-") then
      match ← read rest with
      | (.complex, rest) => return (.complex, rest)
      | _ => throw .notLiteral
    else return (first, .mark sign :: rest)
  | rest => .ok (first, rest)

mutual

/-- Reads a value without a sign, in so many steps. -/
def readUnsigned : Nat → DatumReader Datum
  | 0, _ => .error .notLiteral
  | steps + 1, lexemes =>
    match lexemes with
    | .number isImaginary :: rest => .ok (if isImaginary then .complex else .real, rest)
    | .text isBytes hasPlaces :: rest => readTexts isBytes (.text isBytes hasPlaces :: rest)
    | .mark "..." :: rest => .ok (.plain, rest)
    | .word "set" :: .opening false :: .closing false :: rest => .ok (.unkeyed "set", rest)
    | .word word :: rest =>
      if constantWords.contains word then .ok (.plain, rest) else .error .notLiteral
    | .opening false :: rest => do
      let ((items, hasComma), rest) ← readItems steps (.closing false) rest
      match items, hasComma with
      | [item], false => return (item, rest)
      | items, _ => return (.ofList items, rest)
    | .opening true :: .closing true :: rest => .ok (.unkeyed "dict", rest)
    | .opening true :: rest => readMembers steps "" rest
    | _ => .error .notLiteral

/-- Reads a value, in so many steps. -/
def readDatum : Nat → DatumReader Datum
  | 0, _ => .error .notLiteral
  | steps + 1, lexemes => do
    let signed := lexemes.head? = some (.mark "-") || lexemes.head? = some (.mark "+")
    let (first, rest) ← readUnsigned steps (if signed then lexemes.drop 1 else lexemes)
    if signed ∧ first ≠ .real ∧ first ≠ .complex then throw .notLiteral
    addImaginary (readUnsigned steps) first rest

/-- Reads the values of a list up to a given end, and whether there is a comma, in so many steps. -/
def readItems : Nat → Lexeme → DatumReader (List Datum × Bool)
  | 0, _, _ => .error .notLiteral
  | steps + 1, closing, lexemes => do
    if lexemes.head? = some closing then return (([], false), lexemes.drop 1)
    let (first, rest) ← readDatum steps lexemes
    match rest with
    | .mark "," :: rest =>
      let ((others, _), rest) ← readItems steps closing rest
      return ((first :: others, true), rest)
    | lexeme :: rest =>
      if lexeme = closing then return (([first], false), rest) else throw .notLiteral
    | [] => throw .notLiteral

/-- Reads the members of a set or a mapping, in so many steps; the kind is known behind the first
one. -/
def readMembers : Nat → String → DatumReader Datum
  | 0, _, _ => .error .notLiteral
  | steps + 1, kind, lexemes => do
    if lexemes.head? = some (.closing true) then return (.unkeyed kind, lexemes.drop 1)
    let (key, rest) ← readDatum steps lexemes
    let (kind, rest) ← match rest with
      | .mark ":" :: rest => (readDatum steps rest).map fun (_, rest) => ("dict", rest)
      | rest => .ok ("set", rest)
    key.checkKey
    match rest with
    | .mark "," :: rest => readMembers steps kind rest
    | .closing true :: rest => return (.unkeyed kind, rest)
    | _ => throw .notLiteral

end

/-- Demands that lexemes that make up values are a literal. -/
def checkDatum (lexemes : List Lexeme) : Except LiteralProblem Unit := do
  let _ ← readItems (2 * lexemes.length + 2) (.mark "\n") (lexemes ++ [.mark "\n"])

end StyleTokens.Terminal
