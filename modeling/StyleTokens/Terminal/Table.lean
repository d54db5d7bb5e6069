import StyleTokens.Number.Binary64
import StyleTokens.Terminal.Wrap

/-!
# Tables on a terminal

A table has a title, a line of headers and rows of cells. Every column is as wide as its widest
cell with a blank at either side, unless the table would not fit on the screen; then the widest
columns are made narrower. The title is centred above.
-/

namespace StyleTokens.Terminal

/-- A column of a table. -/
structure Column where
  /-- What stands above it. -/
  header : String
  /-- Whether its cells are at the right. -/
  toRight : Bool
  deriving DecidableEq, Repr

/-- A table; cells may hold style tags. -/
structure Table where
  /-- The title. -/
  title : String
  /-- The columns. -/
  columns : List Column
  /-- The cells, row by row. -/
  rows : List (List String)
  deriving DecidableEq, Repr

/-- How many cells of a column are blanks beside its text. -/
def columnMargin : Nat := 2

/-- The width that a text asks for in a column, of those that are left. -/
def wantedWidth (available : Nat) (text : List Char) : Nat :=
  if available ≤ columnMargin then available else min (measure text + columnMargin) available

/-- Takes some cells from those of the widths that are the widest ones, as evenly as possible and
from none more than so many. There are so many widest ones. -/
def reduceWidest (widest atMost excess count : Nat) : List Nat → List Nat
  | [] => []
  | width :: rest =>
    if width = widest ∧ 0 < count then
      let taken := min atMost (roundHalfEven excess count)
      (width - taken) :: reduceWidest widest atMost (excess - taken) (count - 1) rest
    else width :: reduceWidest widest atMost excess count rest

/-- Widths of which so many are too many in sum: the widest ones are reduced to the next ones until
none is too many. There are so many steps. -/
def collapseWidths : Nat → Nat → List Nat → List Nat
  | 0, _, widths => widths
  | steps + 1, available, widths =>
    let excess := widths.foldl (· + ·) 0 - available
    if excess = 0 then widths
    else
      let widest := widths.foldl max 0
      let next := (widths.filter (· != widest)).foldl max 0
      collapseWidths steps available
        (reduceWidest widest (min excess (widest - next)) excess (widths.count widest) widths)

/-- A column with its width and what is shown in it. -/
structure FilledColumn where
  /-- Whether its cells are at the right. -/
  toRight : Bool
  /-- The width. -/
  width : Nat
  /-- The header and the cells. -/
  texts : List (List Glyph)

namespace FilledColumn

/-- The lines of a cell, each as wide as the column. -/
def cellLines (column : FilledColumn) (text : List Glyph) : List (List Char) :=
  let inner := column.width - columnMargin
  let layout : Layout := ⟨inner, .ellipsis, if column.toRight then .right else .left⟩
  (layout.lines text).map fun line =>
    (fitted column.width ([' '] :: fitted inner (runs line) ++ [[' ']])).flatten

/-- A line without a text. -/
def blankLine (column : FilledColumn) : List Char := List.replicate column.width ' '

end FilledColumn

/-- A rule across the table. -/
def ruleLine (left dash cross right : Char) (columns : List FilledColumn) : List Char :=
  let dashes := columns.map fun column => List.replicate column.width dash
  left :: [cross].intercalate dashes ++ [right]

/-- The lines of a row of cells, with a bar between columns. A cell with fewer lines than others
stands at the top or at the bottom. -/
def rowLines (bar : Char) (atBottom : Bool) (columns : List FilledColumn)
    (texts : List (List Glyph)) : List (List Char) :=
  let cellsOfRow := (columns.zip texts).map fun (column, text) => (column, column.cellLines text)
  let height := (cellsOfRow.map fun (_, lines) => lines.length).foldl max 1
  let columnsOfLines := cellsOfRow.map fun (column, lines) =>
    let missing := List.replicate (height - lines.length) column.blankLine
    if atBottom then missing ++ lines else lines ++ missing
  (List.range height).map fun k =>
    bar :: [bar].intercalate (columnsOfLines.map fun lines => lines[k]?.getD []) ++ [bar]

namespace Table

/-- What is shown in the columns of a table, the header first. -/
def passages (table : Table) : Except TagProblem (List (List Passage)) :=
  table.columns.zipIdx.mapM fun (column, k) =>
    (column.header :: table.rows.map fun row => row[k]?.getD "").mapM Passage.ofText

/-- The columns of a table on a screen of a given width. There is a bar beside every column. -/
def filled (table : Table) (screen : Nat) (texts : List (List (List Glyph))) :
    List FilledColumn :=
  let available := screen - (table.columns.length + 1)
  let widths := texts.map fun column =>
    max 1 ((column.map fun text => wantedWidth available (chars text)).foldl max 0)
  let total := widths.foldl (· + ·) 0
  (table.columns.zip (widths.zip texts)).zip (collapseWidths total available widths) |>.map
    fun ((column, _, texts), width) => ⟨column.toRight, width, texts⟩

/-- The lines of a table on a screen of a given width. -/
def lines (table : Table) (screen : Nat) : Except TagProblem (List (List Char)) := do
  let passages ← table.passages
  unless passages.all fun column => column.all Passage.drawable do throw .noDigits
  let title ← Passage.ofText table.title
  let columns := table.filled screen (passages.map fun column => column.map Passage.glyphs)
  let row (k : Nat) : List (List Glyph) := columns.map fun column => column.texts[k]?.getD []
  let top := ruleLine '┏' '━' '┳' '┓' columns
  let titleLayout : Layout := ⟨top.length, .fold, .centre⟩
  let body := (List.range table.rows.length).flatMap fun k =>
    rowLines '│' false columns (row (k + 1))
  return (titleLayout.lines title.glyphs).map chars ++
    top :: rowLines '┃' true columns (row 0) ++
    ruleLine '┡' '━' '╇' '┩' columns :: body ++ [ruleLine '└' '─' '┴' '┘' columns]

/-- A table as text on a screen of a given width, each line ended. -/
def text (table : Table) (screen : Nat) : Except TagProblem String :=
  (table.lines screen).map fun lines => String.ofList (lines.flatMap fun line => line ++ ['\n'])

end Table

end StyleTokens.Terminal
