import StyleTokens.Terminal.CellTable
import StyleTokens.Text.Character

/-!
# Widths on a terminal

A terminal line consists of cells. Most characters take one cell, some take two, and some take
none. What follows a joiner is drawn in the same place as what is in front of it; a selector makes
an emoji of a character, which then takes two cells. A text falls into clusters, each of which is
drawn as a whole.
-/

namespace StyleTokens.Terminal

/-- How many cells a character takes that stands alone. -/
def cellWidth (c : Char) : Nat :=
  if ' ' ≤ c ∧ c ≤ '~' then 1
  else if Text.inRanges zeroWidthRanges c.toNat then 0
  else if Text.inRanges doubleWidthRanges c.toNat then 2
  else 1

/-- The character that joins two others into one. -/
def joiner : Char := '\u200d'

/-- The character that makes an emoji of the one in front of it. -/
def emojiSelector : Char := '\ufe0f'

/-- How many cells a character gains as an emoji. -/
def emojiGain (c : Char) : Nat := if Text.inRanges emojiFormRanges c.toNat then 1 else 0

/-- How many cells a text takes behind a character that a selector may apply to. What follows a
joiner takes none. -/
def cellsAfter (shown : Option Char) : List Char → Nat
  | [] => 0
  | c :: rest =>
    if c = joiner then
      match rest with
      | [] => 0
      | _ :: rest => cellsAfter shown rest
    else if c = emojiSelector then (shown.map emojiGain).getD 0 + cellsAfter none rest
    else
      let width := cellWidth c
      width + cellsAfter (if width = 0 then shown else some c) rest

/-- How many cells a text takes. -/
def cells (text : List Char) : Nat := cellsAfter none text

/-- Characters that are drawn as a whole. -/
structure Cluster where
  /-- The characters. -/
  chars : List Char
  /-- How many cells they take. -/
  width : Nat
  deriving DecidableEq, Repr

/-- A cluster with more characters, which take some more cells. -/
def Cluster.extend (cluster : Cluster) (chars : List Char) (width : Nat) : Cluster :=
  ⟨cluster.chars ++ chars, cluster.width + width⟩

/-- The clusters of a text behind a character that a selector may apply to, the first cluster being
a given one with what belongs to it. -/
def clustersFrom (cluster : Cluster) (shown : Option Char) : List Char → List Cluster
  | [] => [cluster]
  | c :: rest =>
    if c = joiner then
      match rest with
      | [] => [cluster.extend [c] 0]
      | next :: rest => clustersFrom (cluster.extend [c, next] 0) shown rest
    else if c = emojiSelector then
      clustersFrom (cluster.extend [c] ((shown.map emojiGain).getD 0)) none rest
    else if cellWidth c = 0 then clustersFrom (cluster.extend [c] 0) shown rest
    else cluster :: clustersFrom ⟨[c], cellWidth c⟩ (some c) rest

/-- The clusters of a text. A joiner or selector that a text begins with has nothing in front. -/
def clusters : List Char → List Cluster
  | [] => []
  | c :: rest =>
    let width := if c = joiner ∨ c = emojiSelector then 0 else cellWidth c
    clustersFrom ⟨[c], width⟩ (if width = 0 then none else some c) rest

/-- The clusters that fit into some cells, a blank standing for half of one that does not. -/
def fittingClusters (width : Nat) : List Cluster → List Char
  | [] => []
  | cluster :: rest =>
    if width = 0 then []
    else if cluster.width ≤ width then
      cluster.chars ++ fittingClusters (width - cluster.width) rest
    else [' ']

/-- What a text that is too long for some cells begins with, so that it takes just as many. -/
def fitting (width : Nat) (text : List Char) : List Char := fittingClusters width (clusters text)

/-- A text that takes so many cells: blanks are added, or its end is cut off. -/
def resized (width : Nat) (text : List Char) : List Char :=
  let size := cells text
  if size ≤ width then text ++ List.replicate (width - size) ' ' else fitting width text

/-- How many characters stand on each line if clusters are put on lines of some cells: there are
some on the line so far, which take some cells. -/
def chopLengths (width count used : Nat) : List Cluster → List Nat
  | [] => [count]
  | cluster :: rest =>
    if width < used + cluster.width then
      count :: chopLengths width cluster.chars.length cluster.width rest
    else chopLengths width (count + cluster.chars.length) (used + cluster.width) rest

end StyleTokens.Terminal
