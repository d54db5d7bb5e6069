import StyleTokens.Terminal.Lexeme

/-!
# The form of a literal

The lexemes of a literal have to make up values: operands with operators between them, lists of
them in brackets, keys with their values. They are read from left to right with a stack of the
brackets that are open. Where a lexeme has no place, what stands around it decides how the mistake
is called.
-/

namespace StyleTokens.Terminal

/-- What may come next. -/
inductive Expectation where
  /-- An operand; it may be missing behind an opening bracket or a comma. -/
  | operand (mayMiss : Bool)
  /-- An operator, or the end. -/
  | operator
  /-- The second word of an operator. -/
  | membership
  /-- The name of a member. -/
  | member
  deriving DecidableEq, Repr

/-- What a list of values stands in. -/
inductive Surrounding where
  /-- Nothing: it is the whole text. -/
  | nothing
  /-- Nothing, and it is one value only, which may be one without comparisons. -/
  | oneValue (isSum : Bool)
  /-- Brackets behind an operand. -/
  | call
  /-- Brackets. -/
  | group
  /-- Braces. -/
  | braces
  deriving DecidableEq, Repr

/-- A list of values that is being read. -/
structure Frame where
  /-- What it stands in. -/
  surrounding : Surrounding
  /-- Whether it had a comma. -/
  hasComma : Bool
  /-- Whether its values have keys. -/
  isMapping : Bool
  /-- The lexemes of its last item, the last one first; brackets stand for what they hold. -/
  item : List Lexeme
  /-- Whether the item had its colon. -/
  hasColon : Bool
  /-- How many stars stand before the item. -/
  stars : Nat
  /-- How many conditions have no alternative yet. -/
  conditions : Nat
  /-- Whether its items are generated. -/
  isGenerated : Bool
  deriving Repr

namespace Frame

/-- A list that begins. -/
def start (surrounding : Surrounding) : Frame := ⟨surrounding, false, false, [], false, 0, 0, false⟩

/-- Whether the item is a value that lacks its key or a key that lacks its value. -/
def lacksColon (frame : Frame) : Bool := frame.isMapping && !frame.hasColon && frame.stars != 2

/-- Whether a colon may follow. -/
def takesColon (frame : Frame) : Bool :=
  frame.surrounding = .braces && !frame.hasColon && frame.stars = 0 && frame.conditions = 0 &&
    (frame.isMapping || !frame.hasComma)

/-- Whether so many stars may stand before an item. -/
def takesStars (frame : Frame) (stars : Nat) : Bool :=
  frame.item.isEmpty && frame.stars = 0 &&
    match frame.surrounding with
    | .call => true
    | .group => stars = 1
    | .braces => if stars = 2 then frame.isMapping || !frame.hasComma else !frame.isMapping
    | .nothing | .oneValue _ => false

end Frame

/-- Words that are no names. -/
def reservedWords : List String :=
  ["False", "None", "True", "and", "as", "assert", "async", "await", "break", "class", "continue",
    "def", "del", "elif", "else", "except", "finally", "for", "from", "global", "if", "import",
    "in", "is", "lambda", "nonlocal", "not", "or", "pass", "raise", "return", "try", "while",
    "with", "yield"]

/-- Words that stand for a value. -/
def constantWords : List String := ["True", "False", "None"]

/-- The name that an item consists of, if it is one. -/
def Frame.name? (frame : Frame) : Option String :=
  match frame.item with
  | [.word name] => if reservedWords.contains name then none else some name
  | _ => none

/-- Words between operands. -/
def operatorWords : List String := ["and", "or", "in", "is"]

/-- Marks between operands. -/
def operatorMarks : List String :=
  ["+", "-", "*", "/", "//", "%", "@", "**", "<<", ">>", "&", "^", "|", "==", "!=", "<>", "<=",
    ">=", "<", ">"]

/-- Marks and words between values that are compared or weighed. -/
def comparisonMarks : List String := ["==", "!=", "<>", "<=", ">=", "<", ">"]

/-- Why a lexeme has no place. -/
inductive Obstacle where
  /-- For a reason of its own. -/
  | problem (problem : LiteralProblem)
  /-- An operand follows an operand. -/
  | adjacent
  /-- An equals sign follows an operand. -/
  | equals
  /-- A definition follows an operand that is no name. -/
  | defines
  /-- Two stars stand before the first value in brackets. -/
  | stars
  deriving DecidableEq, Repr

/-- The state in which the lexemes of a literal are read. -/
structure PhraseReader where
  /-- What may come next. -/
  expects : Expectation
  /-- The list that is being read. -/
  frame : Frame
  /-- The lists around it, the innermost first. -/
  outer : List Frame
  /-- Whether there has been an operand outside of brackets. -/
  hasOperand : Bool
  deriving Repr

namespace PhraseReader

/-- Nothing has been read. -/
def start (surrounding : Surrounding) : PhraseReader :=
  ⟨.operand false, .start surrounding, [], false⟩

/-- Puts a lexeme into the item. -/
def put (reader : PhraseReader) (lexeme : Lexeme) (expects : Expectation) : PhraseReader :=
  { reader with expects, frame := { reader.frame with item := lexeme :: reader.frame.item } }

/-- An operand is complete. -/
def complete (reader : PhraseReader) : PhraseReader :=
  { reader with
    expects := .operator, hasOperand := reader.hasOperand || reader.outer.isEmpty }

/-- Opens a bracket. -/
def openWith (reader : PhraseReader) (mark : Lexeme) (surrounding : Surrounding) : PhraseReader :=
  let outer := (reader.put mark .operator).frame
  ⟨.operand true, .start surrounding, outer :: reader.outer, reader.hasOperand⟩

/-- Demands that the item is all right as far as it goes. -/
def checkItem (frame : Frame) : Except Obstacle Unit :=
  if frame.conditions != 0 && !frame.isGenerated then .error (.problem .missingElse)
  else if frame.lacksColon then .error (.problem .missingColon)
  else .ok ()

/-- Ends an item with a comma. -/
def endItem (reader : PhraseReader) : Except Obstacle PhraseReader := do
  checkItem reader.frame
  let frame := { Frame.start reader.frame.surrounding with
    hasComma := true,
    isMapping := reader.frame.isMapping || reader.frame.hasColon ||
      reader.frame.surrounding = .braces && reader.frame.stars = 2 }
  return { reader with expects := .operand true, frame }

/-- Closes a bracket. -/
def close (reader : PhraseReader) : Except Obstacle PhraseReader := do
  let frame := reader.frame
  unless frame.item.isEmpty do checkItem frame
  if frame.surrounding = .group ∧ frame.stars = 1 ∧ !frame.hasComma then
    throw (.problem .lonelyStar)
  match reader.outer with
  | [] => throw (.problem .misplaced)
  | outside :: outer => return ({ reader with frame := outside, outer }).complete

/-- Whether a value may begin with a negation. -/
def takesNot (frame : Frame) : Bool :=
  match frame.item.head? with
  | none => frame.stars = 0
  | some (.word word) => word != "in" && word != "await"
  | some (.mark mark) => [":", "=", ":="].contains mark
  | some _ => false

/-- Reads a lexeme where an operand is expected. -/
def readOperand (reader : PhraseReader) (mayMiss : Bool) (lexeme : Lexeme) :
    Except Obstacle PhraseReader :=
  let misplaced : Except Obstacle PhraseReader :=
    .error (.problem (if reader.frame.stars = 1 && reader.frame.item.isEmpty then .bareStar
      else .misplaced))
  let stars (count : Nat) : Except Obstacle PhraseReader :=
    if reader.frame.takesStars count then
      .ok { reader with expects := .operand false, frame := { reader.frame with stars := count } }
    else misplaced
  match lexeme with
  | .number _ | .text _ _ | .mark "..." => .ok (reader.put lexeme .operator).complete
  | .word word =>
    if constantWords.contains word || !reservedWords.contains word then
      .ok (reader.put lexeme .operator).complete
    else if word = "await" ∨ (word = "not" ∧ takesNot reader.frame) then
      .ok (reader.put lexeme (.operand false))
    else misplaced
  | .mark "+" | .mark "-" | .mark "~" => .ok (reader.put lexeme (.operand false))
  | .mark "*" => stars 1
  | .mark "**" =>
    if reader.frame.surrounding = .group ∧ reader.frame.item.isEmpty ∧ reader.frame.stars = 0 ∧
      !reader.frame.hasComma then .error .stars
    else stars 2
  | .opening false => .ok (reader.openWith lexeme .group)
  | .opening true => .ok (reader.openWith lexeme .braces)
  | .closing false => if mayMiss then reader.close else misplaced
  | .closing true | .mark "," =>
    if mayMiss ∧ lexeme = .closing true then reader.close
    else if reader.frame.item.head? = some (.mark ":") then .error (.problem .missingValue)
    else misplaced
  | .mark _ => misplaced

/-- Reads a word where an operator is expected. -/
def readOperatorWord (reader : PhraseReader) (word : String) : Except Obstacle PhraseReader :=
  let frame := reader.frame
  let next := reader.put (.word word) (.operand false)
  if frame.surrounding = .oneValue true then .error (.problem .misplaced)
  else if operatorWords.contains word then .ok next
  else if word = "not" then .ok (reader.put (.word word) .membership)
  else if word = "if" then
    .ok { next with frame := { next.frame with conditions := frame.conditions + 1 } }
  else if word = "else" ∧ frame.conditions ≠ 0 then
    .ok { next with frame := { next.frame with conditions := frame.conditions - 1 } }
  else if word = "for" ∧ !reader.outer.isEmpty then
    .ok { next with frame := { next.frame with isGenerated := true } }
  else if constantWords.contains word || word = "lambda" || word = "await" ||
    !reservedWords.contains word then .error .adjacent
  else .error (.problem .misplaced)

/-- Reads an equals sign behind an operand. -/
def readEquals (reader : PhraseReader) : Except Obstacle PhraseReader :=
  match reader.frame.surrounding, reader.frame.item with
  | .call, [.word name] =>
    if constantWords.contains name then .error (.problem (.constantArgument name))
    else .ok (reader.put (.mark "=") (.operand false))
  | .call, _ => .error (.problem .namedArgument)
  | _, _ => .error .equals

/-- Reads a lexeme where an operator is expected. -/
def readOperator (reader : PhraseReader) (lexeme : Lexeme) : Except Obstacle PhraseReader :=
  let frame := reader.frame
  match lexeme with
  | .word word => reader.readOperatorWord word
  | .number _ => .error .adjacent
  | .text isBytes _ =>
    match frame.item.head? with
    | some (.text other _) =>
      if isBytes = other then .ok (reader.put lexeme .operator)
      else .error (.problem .mixedTexts)
    | _ => .error .adjacent
  | .opening false => .ok (reader.openWith lexeme .call)
  | .opening true | .mark "..." | .mark "~" => .error .adjacent
  | .mark "." => .ok (reader.put lexeme .member)
  | .mark "," =>
    match frame.surrounding with
    | .oneValue _ => .error (.problem .misplaced)
    | _ => reader.endItem
  | .closing false | .closing true => reader.close
  | .mark ":" =>
    if frame.takesColon then
      let next := reader.put lexeme (.operand false)
      .ok { next with frame := { next.frame with hasColon := true } }
    else .error (.problem .misplaced)
  | .mark ":=" =>
    if reader.outer.isEmpty ∨ frame.isMapping ∨ frame.hasColon ∨ frame.stars ≠ 0 then
      .error (.problem .misplaced)
    else if frame.name?.isSome then .ok (reader.put lexeme (.operand false))
    else .error .defines
  | .mark "=" => reader.readEquals
  | .mark mark =>
    if operatorMarks.contains mark &&
      !(frame.surrounding = .oneValue true && comparisonMarks.contains mark) then
      .ok (reader.put lexeme (.operand false))
    else .error (.problem .misplaced)

/-- Reads a lexeme. -/
def read (reader : PhraseReader) (lexeme : Lexeme) : Except Obstacle PhraseReader :=
  match reader.expects, lexeme with
  | .operand mayMiss, lexeme => reader.readOperand mayMiss lexeme
  | .operator, lexeme => reader.readOperator lexeme
  | .membership, .word "in" => .ok (reader.put lexeme (.operand false))
  | .member, .word word =>
    if reservedWords.contains word then .error (.problem .misplaced)
    else .ok (reader.put lexeme .operator)
  | _, _ => .error (.problem .misplaced)

/-- Where a reader got stuck. -/
structure Halt where
  /-- Why. -/
  obstacle : Obstacle
  /-- The state before. -/
  reader : PhraseReader
  /-- The lexemes that were not read. -/
  rest : List Lexeme
  deriving Repr

/-- Reads lexemes as far as possible. -/
def run (reader : PhraseReader) : List Lexeme → Except Halt PhraseReader
  | [] => .ok reader
  | lexeme :: rest =>
    match reader.read lexeme with
    | .ok next => next.run rest
    | .error obstacle => .error ⟨obstacle, reader, lexeme :: rest⟩

end PhraseReader

/-! ### What a mistake is called -/

/-- What comes of a value that is looked for. -/
inductive Finding where
  /-- There is none. -/
  | nothing
  /-- There is one, and what follows it, if that is known. -/
  | value (next : Option Lexeme)
  /-- The text ends in it. -/
  | unfinished
  deriving DecidableEq, Repr

/-- Looks for a value that lexemes begin with, which may have to be one without comparisons. -/
def findValue (isSum : Bool) (lexemes : List Lexeme) : Finding :=
  match (PhraseReader.start (.oneValue isSum)).run lexemes with
  | .ok _ => .unfinished
  | .error halt =>
    if !halt.reader.hasOperand then .nothing
    else if halt.reader.outer.isEmpty && halt.reader.expects = .operator then
      .value halt.rest.head?
    else .value none

/-- What a value is called that is assigned to. -/
def assigneeName (item : List Lexeme) : Option String :=
  let isSign (lexeme : Lexeme) : Bool :=
    match lexeme with
    | .mark mark => mark = "~" || operatorMarks.contains mark
    | _ => false
  if item.any fun lexeme => match lexeme with
    | .mark mark => comparisonMarks.contains mark
    | .word word => reservedWords.contains word
    | _ => false
  then none
  else if item.any isSign then some "expression"
  else
    match item with
    | [.number _] | .text _ _ :: _ => some "literal"
    | [.mark "..."] => some "ellipsis"
    | .opening false :: _ :: _ => some "function call"
    | .word _ :: .mark "." :: _ => some "attribute"
    | _ => none

/-- The words that only sometimes are names. -/
def softWords : List String := ["_", "case", "match"]

/-- Whether the operands of an item may have lost a comma between them, the second of which is
given. -/
def mayLackComma (item : List Lexeme) (next : Lexeme) : Bool :=
  match item.reverse with
  | .word word :: rest =>
    reservedWords.contains word || !softWords.contains word &&
      match rest.head?.getD next with
      | .text _ _ => false
      | _ => true
  | _ => true

/-- What a mistake is called where an operand follows an operand; there may be no brackets around
them. -/
def nameAdjacent (frame : Frame) (isWhole : Bool) (rest : List Lexeme)
    (otherwise : LiteralProblem) (unfinished : Option LiteralProblem) : LiteralProblem :=
  let lacksComma := (rest.head?.map (mayLackComma frame.item)).getD false
  match findValue false rest, unfinished with
  | .nothing, _ => otherwise
  | .unfinished, some unfinished =>
    if lacksComma ∨ frame.name?.isSome then unfinished else otherwise
  | _, _ =>
    match frame.name? with
    | some "print" => .command "print"
    | some "exec" => .command "exec"
    | _ => if lacksComma ∧ !isWhole then .missingComma else otherwise

/-- What a mistake is called where an equals sign follows an operand. -/
def nameEquals (frame : Frame) (rest : List Lexeme) (otherwise : LiteralProblem)
    (unfinished : Option LiteralProblem) : LiteralProblem :=
  let asAssignment := (frame.name?.map fun _ => .assigned).or
    ((assigneeName frame.item).map .assignedTo)
  match findValue true rest, asAssignment with
  | .nothing, _ | _, none => otherwise
  | .unfinished, _ => unfinished.getD otherwise
  | .value next, some problem =>
    if next = some (.mark "=") ∨ next = some (.mark ":=") then otherwise else problem

/-- What a mistake is called; the brackets are given that are open in the end. -/
def nameMistake (halt : PhraseReader.Halt) (isOpen : List Char) : LiteralProblem :=
  let frame := halt.reader.frame
  let isWhole := halt.reader.outer.isEmpty
  let isBehind := halt.reader.expects = .operator
  let otherwise : LiteralProblem :=
    if frame.lacksColon ∧ isBehind then .missingColon else .misplaced
  let unfinished : Option LiteralProblem := isOpen.head?.map .neverClosed
  if halt.rest.head? = some (.mark "\\") then .behindBackslash
  else if isBehind ∧ frame.conditions ≠ 0 ∧ !frame.isGenerated ∧
    halt.rest.head? ≠ some (.mark ":") then
    .missingElse
  else if halt.reader.expects = .membership then
    nameAdjacent { frame with item := frame.item.drop 1 } isWhole (.word "not" :: halt.rest)
      otherwise unfinished
  else
    match halt.obstacle with
    | .adjacent => nameAdjacent frame isWhole halt.rest otherwise unfinished
    | .equals =>
      if isWhole ∨ frame.isMapping ∨ frame.hasColon ∨ frame.stars ≠ 0 then otherwise
      else nameEquals frame (halt.rest.drop 1) otherwise unfinished
    | .defines =>
      match findValue false (halt.rest.drop 1), assigneeName frame.item with
      | .value _, some what => .defined what
      | .unfinished, _ => unfinished.getD otherwise
      | _, _ => otherwise
    | .stars =>
      match findValue false (halt.rest.drop 1) with
      | .unfinished => unfinished.getD otherwise
      | .value (some (.closing false)) => .lonelyStars
      | _ => .misplaced
    | .problem .misplaced => otherwise
    | .problem problem => problem

/-- Demands that lexemes make up values, if the given brackets are open in the end. -/
def checkPhrase (lexemes : List Lexeme) (isOpen : List Char) : Except LiteralProblem Unit :=
  match (PhraseReader.start .nothing).run lexemes with
  | .error halt => .error (nameMistake halt isOpen)
  | .ok reader =>
    match isOpen, reader.expects with
    | bracket :: _, _ => .error (.neverClosed bracket)
    | [], .operator =>
      if reader.frame.conditions = 0 then .ok () else .error .missingElse
    | [], .operand true => .ok ()
    | [], _ => .error .misplaced

end StyleTokens.Terminal
