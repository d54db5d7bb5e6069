import StyleTokens.Terminal.Tags
import StyleTokens.Terminal.Width

/-!
# Lines of a text within a width

A text is laid out in lines of so many cells. Tabs lead to the next multiple of eight cells, and a
line that is too long is broken before a word. A word that is too long by itself is either broken
or cut and marked by an ellipsis. Characters inside different tags are drawn apart, and the cells
that they take are counted apart.
-/

namespace StyleTokens.Terminal

/-- How many cells glyphs take that are drawn together. -/
def glyphCells (glyphs : List Glyph) : Nat := cells (chars glyphs)

/-- How far tab stops are apart. -/
def tabStop : Nat := 8

/-- A part of a line that ends in a tab, with blanks for the tab. The part begins in a column. -/
def fillTab (column : Nat) (front : List Glyph) (tab : Glyph) : List Glyph :=
  let blank : Glyph := { tab with char := ' ' }
  let filled := front ++ [blank]
  let reached := column + glyphCells filled
  filled ++ List.replicate ((tabStop - reached % tabStop) % tabStop) blank

/-- The parts of a line that begin behind tabs, with their tabs as blanks, from a column on. -/
def expandParts (column : Nat) : List (List Glyph) → List Glyph
  | [] => []
  | part :: rest =>
    match part.getLast? with
    | some tab =>
      if tab.char = '\t' then
        let filled := fillTab column part.dropLast tab
        filled ++ expandParts (column + glyphCells part.dropLast +
          (filled.length - part.dropLast.length)) rest
      else part ++ expandParts column rest
    | none => expandParts column rest

/-- A line with its tabs as blanks. -/
def expandTabs (line : List Glyph) : List Glyph :=
  expandParts 0 (line.splitBy fun a _ => a.char != '\t')

/-- Whether a glyph is a blank. -/
def Glyph.isBlank (glyph : Glyph) : Bool := Text.isBlank glyph.char

/-- Glyphs without the blanks at their end. -/
def trimmedEnd (line : List Glyph) : List Glyph := (line.reverse.dropWhile Glyph.isBlank).reverse

/-- The words of a line, each with the blanks behind it; the first word also has those before
it. A line of blanks has no word. -/
def spacedWords (line : List Glyph) : List (List Glyph) :=
  match line.splitBy fun a b => !(a.isBlank && !b.isBlank) with
  | first :: second :: rest =>
    if first.all Glyph.isBlank then (first ++ second) :: rest else first :: second :: rest
  | [only] => if only.all Glyph.isBlank then [] else [only]
  | [] => []

/-- A list in parts of so many items each, and what is left. -/
def partsOf {α : Type} (items : List α) : List Nat → List (List α)
  | [] => []
  | count :: rest => items.take count :: partsOf (items.drop count) rest

/-- A word in parts that fit into some cells. -/
def brokenWord (width : Nat) (word : List Glyph) : List (List Glyph) :=
  partsOf word (chopLengths width 0 0 (clusters (chars word)))

/-- What becomes of a word that is too long for a line. -/
inductive Overflow where
  /-- It is broken into parts. -/
  | fold
  /-- It is cut, and an ellipsis takes the last cell. -/
  | ellipsis
  deriving DecidableEq, Repr

/-- The lines of words: what a line holds so far, how many cells that takes, and the words that
follow. -/
def fillLines (width : Nat) (overflow : Overflow) (line : List Glyph) (used : Nat) :
    List (List Glyph) → List (List Glyph)
  | [] => [line]
  | word :: rest =>
    let size := glyphCells (trimmedEnd word)
    if used + size ≤ width then
      fillLines width overflow (line ++ word) (used + glyphCells word) rest
    else
      let parts := if overflow = .fold ∧ width < size then brokenWord width word else [word]
      let last := parts.getLast?.getD []
      (if line.isEmpty then [] else [line]) ++ parts.dropLast ++
        fillLines width overflow last (glyphCells last) rest

/-- A line broken before words. -/
def brokenLine (width : Nat) (overflow : Overflow) (line : List Glyph) : List (List Glyph) :=
  match spacedWords line with
  | [] => [line]
  | words => fillLines width overflow [] 0 words

/-- The first glyphs of a line. If there are others, the tags behind the first ones do not count
any more. -/
def front (count : Nat) (line : List Glyph) : List Glyph :=
  if line.length ≤ count then line
  else
    let kept := line.take count
    let behind := (kept.getLast?.map Glyph.later).getD 0
    kept.map fun glyph => { glyph with later := glyph.later - behind }

/-- A line without the blanks at its end that are past its width. -/
def withoutExcess (width : Nat) (line : List Glyph) : List Glyph :=
  let blanks := line.length - (trimmedEnd line).length
  front (line.length - min blanks (line.length - width)) line

/-- Other characters in the place of glyphs, inside the same tags. -/
def replaceChars (line : List Glyph) (text : List Char) : List Glyph :=
  List.zipWith (fun glyph c => { glyph with char := c }) (line ++ untagged text) text

/-- A line that does not fit is cut. -/
def cutToFit (width : Nat) (overflow : Overflow) (line : List Glyph) : List Glyph :=
  if glyphCells line ≤ width then line
  else
    match overflow with
    | .fold => replaceChars line (resized width (chars line))
    | .ellipsis => replaceChars line (resized (width - 1) (chars line) ++ ['…'])

/-- Where a line stands between the ends of its cells. -/
inductive Alignment where
  /-- It takes no more cells than it needs. -/
  | none
  /-- At the left. -/
  | left
  /-- At the right. -/
  | right
  /-- In the middle; of an odd number of free cells more are at the right. -/
  | centre
  deriving DecidableEq, Repr

/-- Blanks outside of all tags. -/
def blanks (count : Nat) : List Glyph := untagged (List.replicate count ' ')

/-- A line with blanks behind it that fill some cells. -/
def padRight (width : Nat) (line : List Glyph) : List Glyph :=
  line ++ blanks (width - glyphCells line)

/-- How a text is laid out. -/
structure Layout where
  /-- How many cells a line has. -/
  width : Nat
  /-- What becomes of words that are too long. -/
  overflow : Overflow
  /-- Where lines stand. -/
  alignment : Alignment
  deriving DecidableEq, Repr

namespace Layout

/-- A line in its place. -/
def place (layout : Layout) (line : List Glyph) : List Glyph :=
  let fit (line : List Glyph) : List Glyph := cutToFit layout.width layout.overflow line
  match layout.alignment with
  | .none => fit line
  | .left => padRight layout.width (fit line)
  | .right =>
    let line := fit (trimmedEnd line)
    blanks (layout.width - glyphCells line) ++ line
  | .centre =>
    let line := fit (trimmedEnd line)
    padRight layout.width (blanks ((layout.width - glyphCells line) / 2) ++ line)

/-- The lines of a text. A text of one line without tabs is not divided. -/
def lines (layout : Layout) (text : List Glyph) : List (List Glyph) :=
  let divides := text.any fun glyph => glyph.char == '\n' || glyph.char == '\t'
  let parts := (Text.splitWhere (·.char == '\n') text).flatMap fun line =>
    brokenLine layout.width layout.overflow (expandTabs line)
  let whole := !divides && parts.length = 1
  (if whole then parts else parts.map (·.map Glyph.divided)).map fun part =>
    layout.place (withoutExcess layout.width part)

end Layout

/-- The characters of a line that are drawn together, in order. -/
def runs (line : List Glyph) : List (List Char) :=
  (line.splitBy Glyph.joins).map chars

/-- The runs that fit into some cells; the last one is cut. -/
def croppedRuns (width : Nat) : List (List Char) → List (List Char)
  | [] => []
  | run :: rest =>
    if cells run < width then run :: croppedRuns (width - cells run) rest else [resized width run]

/-- How many cells runs take, each by itself. -/
def totalCells (line : List (List Char)) : Nat := (line.map cells).foldl (· + ·) 0

/-- Runs that take no more than some cells. -/
def cropped (width : Nat) (line : List (List Char)) : List (List Char) :=
  if totalCells line ≤ width then line else croppedRuns width line

/-- Runs that take just so many cells. -/
def fitted (width : Nat) (line : List (List Char)) : List (List Char) :=
  let size := totalCells line
  if size < width then line ++ [List.replicate (width - size) ' '] else cropped width line

/-- Whether a character ends a line where the width of a text is measured. -/
def endsLine (c : Char) : Bool :=
  [0x0A, 0x0B, 0x0C, 0x0D, 0x1C, 0x1D, 0x1E, 0x85, 0x2028, 0x2029].contains c.toNat

/-- The width of a text: that of its longest line, tabs not counted. -/
def measure (text : List Char) : Nat := ((Text.splitWhere endsLine text).map cells).foldl max 0

/-- What a screen of a given width shows of a text with style tags. -/
def shown (screen : Nat) (text : String) : Except TagProblem String := do
  let passage ← Passage.ofText text
  unless passage.drawable do throw .noDigits
  let layout : Layout := ⟨screen, .fold, .none⟩
  let lines := (layout.lines passage.glyphs).map fun line => (cropped screen (runs line)).flatten
  return String.ofList (['\n'].intercalate lines)

end StyleTokens.Terminal
