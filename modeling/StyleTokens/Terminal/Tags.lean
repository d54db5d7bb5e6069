import StyleTokens.Terminal.Datum
import StyleTokens.Terminal.EmojiWords
import StyleTokens.Terminal.Style
import StyleTokens.Text.Blank
import StyleTokens.Text.Case
import StyleTokens.Text.Lines

/-!
# Text with style tags

A text for a terminal may hold tags in square brackets that switch a style on or off. A terminal
without styles shows the text without its tags, but what stands inside different tags is drawn
apart. A backslash before a bracket takes the tag as text; two backslashes stand for one. A tag
that switches a style off needs one that switched it on.

A tag that begins with an at sign names an action instead of a style, with its arguments in
brackets. The arguments, or the whole text if it is not of this form, have to be a literal.

A name between colons stands for an emoji. The name may end in `-emoji` or `-text`, which asks for
the coloured form or for the plain one. What is no name of an emoji stays as it is.
-/

namespace StyleTokens.Terminal

/-! ### Emoji codes -/

/-- Pairs of neighbours. -/
def neighbours : List String → List (String × String)
  | name :: emoji :: rest => (name, emoji) :: neighbours rest
  | _ => []

/-- The names of emoji, each with its emoji. -/
def emojiNames : List (String × String) :=
  emojiLines.flatMap fun line => neighbours (line.splitOn " ")

/-- The endings that ask for a form of an emoji, each with the character that selects it. -/
def emojiForms : List (String × Char) := [("-emoji", '\ufe0f'), ("-text", '\ufe0e')]

/-- The emoji that a name stands for, in any case. -/
def emojiNamed? (name : List Char) : Option (List Char) :=
  (emojiNames.lookup (Text.lowerString (String.ofList name))).map String.toList

/-- The emoji that a code stands for. -/
def emojiOfCode? (code : List Char) : Option (List Char) :=
  match emojiForms.find? fun (ending, _) => ending.toList.isSuffixOf code with
  | some (ending, selector) =>
    (emojiNamed? (code.take (code.length - ending.length))).map (· ++ [selector])
  | none => emojiNamed? code

/-- A text with its codes replaced, given in parts that begin behind colons. A code holds no
blank. -/
def replaceCodes : List (List Char) → List Char
  | [] => []
  | [last] => ':' :: last
  | code :: after :: rest =>
    if code.any Text.isBlank then ':' :: code ++ replaceCodes (after :: rest)
    else (emojiOfCode? code).getD (':' :: code ++ [':']) ++ after ++ replaceCodes rest

/-- A text with its emoji codes replaced. -/
def withEmoji (text : List Char) : List Char :=
  match Text.splitWhere (· == ':') text with
  | [] => []
  | first :: rest => first ++ replaceCodes rest

/-! ### Tags -/

/-- What is wrong with an action. -/
structure ActionProblem where
  /-- The action as it stands in its tag. -/
  action : String
  /-- What was read as its arguments. -/
  arguments : String
  /-- Why that makes no sense. -/
  problem : LiteralProblem
  deriving DecidableEq, Repr

/-- The wording of a problem. -/
def ActionProblem.message (problem : ActionProblem) : String :=
  let arguments := if problem.problem.isSyntactic then
    Text.quotedString problem.arguments ++ " in " else ""
  "error parsing " ++ arguments ++ Text.quotedString problem.action ++ "; " ++
    problem.problem.message

/-- The arguments of an action: what stands in brackets behind its name, or else the whole. An
action without brackets has none. -/
def argumentsOf (action : List Char) : List Char :=
  let behindName := action.dropWhile fun c => Text.isWordChar c || c == '.'
  if behindName.isEmpty then ['(', ')']
  else if behindName.head? = some '(' ∧ behindName.getLast? = some ')' ∧
      !behindName.contains '\n' then
    behindName
  else action

/-- Demands that an action makes sense. -/
def checkAction (text : String) : Except ActionProblem Unit :=
  let arguments := argumentsOf (Text.trim text.toList)
  let outcome : Except LiteralProblem Unit := do
    let (lexemes, isOpen) ← lexemesOf (arguments.dropWhile fun c => c == ' ' || c == '\t')
    checkPhrase lexemes isOpen
    checkDatum lexemes
  outcome.mapError (⟨text, String.ofList arguments, ·⟩)

/-- Why a text with style tags cannot be shown; the number is the place of the tag. -/
inductive TagProblem where
  /-- A tag switches a style off that is not on. -/
  | notOpen (tag : String) (position : Nat)
  /-- A tag switches the last style off while none is on. -/
  | nothingOpen (position : Nat)
  /-- The action of a tag makes no sense. -/
  | action (problem : ActionProblem)
  /-- A tag gives a colour by numbers, one of which has no digits. -/
  | noDigits
  deriving DecidableEq, Repr

/-- The wording of a problem. -/
def TagProblem.message : TagProblem → String
  | .notOpen tag position =>
    "closing tag '[" ++ tag ++ "]' at position " ++ toString position ++
      " doesn't match any open tag"
  | .nothingOpen position =>
    "closing tag '[/]' at position " ++ toString position ++ " has nothing to close"
  | .action problem => problem.message
  | .noDigits => "invalid literal for int() with base 10: ''"

/-- A part of a text with tags. -/
inductive TagPiece where
  /-- Characters that are shown. -/
  | plain (text : List Char)
  /-- What stands between the brackets of a tag, and where the tag begins. -/
  | tag (content : List Char) (position : Nat)
  deriving DecidableEq, Repr

/-- Whether a piece is a tag. -/
def TagPiece.isTag : TagPiece → Bool
  | .plain _ => false
  | .tag _ _ => true

/-- Whether the content of a tag may begin with a character. -/
def beginsTag (c : Char) : Bool := c.isLower || c == '#' || c == '/' || c == '@'

/-- The content of the tag that begins before a text, and the text behind the tag. -/
def tagAt? : List Char → Option (List Char × List Char)
  | [] => none
  | c :: rest =>
    let inner := rest.takeWhile (· != ']')
    match rest.dropWhile (· != ']') with
    | _ :: after => if beginsTag c then some (c :: inner, after) else none
    | [] => none

/-- Brackets that a backslash takes as text, without the backslash. -/
def unescaped : List Char → List Char
  | '\\' :: '[' :: rest => '[' :: unescaped rest
  | c :: rest => c :: unescaped rest
  | [] => []

/-- The pieces of a text of which a part has been read up to a place: what follows is given in
parts that begin behind brackets. -/
def piecesFrom (before : List Char) (position : Nat) : List (List Char) → List TagPiece
  | [] => [.plain (unescaped before)]
  | part :: parts =>
    let next := position + part.length + 1
    match tagAt? part with
    | none => piecesFrom (before ++ '[' :: part) next parts
    | some (content, after) =>
      let escapes := (before.reverse.takeWhile (· == '\\')).length
      let slashes : TagPiece := .plain (List.replicate (escapes / 2) '\\')
      let piece : TagPiece :=
        if escapes % 2 = 1 then .plain ('[' :: content ++ [']']) else .tag content position
      .plain (unescaped (before.take (before.length - escapes))) :: slashes :: piece ::
        piecesFrom after next parts

/-- The pieces of a text. -/
def tagPieces (text : List Char) : List TagPiece :=
  match Text.splitWhere (· == '[') text with
  | [] => []
  | first :: parts => piecesFrom first first.length parts

/-- A tag that has been opened. -/
structure OpenTag where
  /-- How many tags were opened before it. -/
  number : Nat
  /-- What it switches on, in normal form. -/
  name : String
  /-- What stands behind the equals sign, if there is one. -/
  parameters : Option String
  deriving DecidableEq, Repr

namespace OpenTag

/-- The action that a tag names with its arguments. -/
def action? (tag : OpenTag) : Option String :=
  if tag.name.startsWith "@" then tag.parameters.filter (!·.isEmpty) else none

/-- The description of the style that a tag switches on. -/
def style (tag : OpenTag) : String :=
  match tag.parameters with
  | some parameters => tag.name ++ " " ++ parameters
  | none => tag.name

/-- Whether a style has to be found for a tag, in which a colour is given without digits. -/
def lacksDigits (tag : OpenTag) : Bool :=
  match Style.ofText tag.style with
  | .error .noDigits => true
  | _ => false

end OpenTag

/-- A character on a terminal, and where it stands among the tags of its text. -/
structure Glyph where
  /-- The character. -/
  char : Char
  /-- The numbers of the tags that it stands inside. -/
  tags : List Nat
  /-- How many tags are read behind it, unless its text has been divided. -/
  later : Nat
  deriving DecidableEq, Repr

/-- A glyph of a text that has been divided: tags around no character do not count any more. -/
def Glyph.divided (glyph : Glyph) : Glyph := { glyph with later := 0 }

/-- Whether two glyphs beside each other are drawn together: no tag stands between them. -/
def Glyph.joins (a b : Glyph) : Bool := a.tags == b.tags && a.later == b.later

/-- The characters of glyphs. -/
def chars (glyphs : List Glyph) : List Char := glyphs.map Glyph.char

/-- Characters outside of all tags. -/
def untagged (text : List Char) : List Glyph := text.map (⟨·, [], 0⟩)

/-- Whether a character steers the terminal and is dropped: the bell, the back space, the vertical
tab, the form feed and the carriage return. -/
def isSteering (c : Char) : Bool := [0x07, 0x08, 0x0B, 0x0C, 0x0D].contains c.toNat

/-- The state in which a text with tags is read. -/
structure TagReader where
  /-- The tags that are open, the last one first. -/
  openTags : List OpenTag
  /-- How many tags have been opened. -/
  count : Nat
  /-- The tags that have been closed or are open. -/
  seen : List OpenTag
  /-- How many tags are still to be read. -/
  left : Nat
  /-- What is shown of the text so far. -/
  shown : List Glyph

namespace TagReader

/-- Nothing has been read of a text with so many tags. -/
def start (tags : Nat) : TagReader := ⟨[], 0, [], tags, []⟩

/-- Adds characters inside of the tags that are open. -/
def add (reader : TagReader) (text : List Char) : TagReader :=
  let tags := reader.openTags.map OpenTag.number
  let glyphs := ((withEmoji text).filter (!isSteering ·)).map (⟨·, tags, reader.left⟩)
  { reader with shown := reader.shown ++ glyphs }

/-- Closes a tag, whose action has to make sense. -/
def close (reader : TagReader) (tag : OpenTag) : Except TagProblem TagReader := do
  if let some action := tag.action? then (checkAction action).mapError .action
  return { reader with openTags := reader.openTags.erase tag }

/-- The normal form of what a tag names. -/
def normalName (name : List Char) : Except TagProblem String :=
  (normalStyle (String.ofList name)).mapError fun _ => .noDigits

/-- Reads the content of a tag. -/
def readTag (reader : TagReader) (content : List Char) (position : Nat) :
    Except TagProblem TagReader :=
  let name := content.takeWhile (· != '=')
  let parameters := (content.dropWhile (· != '=')).tail?.map String.ofList
  match name with
  | '/' :: rest =>
    if (Text.trim rest).isEmpty then
      match reader.openTags with
      | [] => .error (.nothingOpen position)
      | tag :: _ => reader.close tag
    else do
      let wanted ← normalName (Text.trim rest)
      match reader.openTags.find? (·.name == wanted) with
      | some tag => reader.close tag
      | none => throw (.notOpen (String.ofList content) position)
  | name => do
    let tag : OpenTag := ⟨reader.count, ← normalName name, parameters⟩
    return { reader with
      openTags := tag :: reader.openTags, count := reader.count + 1, seen := tag :: reader.seen }

/-- Reads a piece of a text. -/
def read (reader : TagReader) : TagPiece → Except TagProblem TagReader
  | .plain text => .ok (reader.add text)
  | .tag content position => { reader with left := reader.left - 1 }.readTag content position

end TagReader

/-- A text with its tags read. -/
structure Passage where
  /-- What is shown of it. -/
  glyphs : List Glyph
  /-- Whether the styles of its tags can be found. -/
  drawable : Bool
  deriving DecidableEq, Repr

/-- Reads a text with tags. -/
def Passage.ofText (text : String) : Except TagProblem Passage := do
  let pieces := tagPieces text.toList
  let reader ← pieces.foldlM TagReader.read (.start (pieces.countP TagPiece.isTag))
  return ⟨reader.shown, !reader.seen.any OpenTag.lacksDigits⟩

end StyleTokens.Terminal
