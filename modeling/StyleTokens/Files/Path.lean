import StyleTokens.Text.Lines

/-!
# Paths

A path is a root and the names that lead from it. Empty names and `.` drop out when a text is
read, while `..` stays; exactly two leading slashes are kept apart from one.
-/

namespace StyleTokens

/-- A path. -/
structure Path where
  /-- How many slashes the path begins with: none, one or two. -/
  slashes : Nat
  /-- The names, outermost first. -/
  names : List String
  deriving DecidableEq, Repr, Inhabited

namespace Path

/-- How many leading slashes count: more than two count as one. -/
def leadingSlashes (text : List Char) : Nat :=
  match (text.takeWhile (· == '/')).length with
  | 0 => 0
  | 2 => 2
  | _ => 1

/-- The path that a text denotes. -/
def ofText (text : String) : Path :=
  ⟨leadingSlashes text.toList,
    (Text.splitString '/' text).filter fun name => !name.isEmpty && name != "."⟩

/-- Whether a path begins at the root. -/
def isAbsolute (path : Path) : Bool := path.slashes != 0

/-- A path as text; the path of nothing is `.`. -/
def text (path : Path) : String :=
  if path.slashes = 0 ∧ path.names.isEmpty then "."
  else String.ofList (List.replicate path.slashes '/') ++ "/".intercalate path.names

/-- A path seen from another: an absolute one stands for itself. -/
def join (base path : Path) : Path :=
  if path.isAbsolute then path else ⟨base.slashes, base.names ++ path.names⟩

/-- A path with one further name. -/
def child (path : Path) (name : String) : Path := path.join (ofText name)

/-- The path without its last name. -/
def parent (path : Path) : Path := ⟨path.slashes, path.names.dropLast⟩

/-- The paths above a path, nearest first. -/
def parents (path : Path) : List Path :=
  (List.range path.names.length).map fun k =>
    ⟨path.slashes, path.names.take (path.names.length - 1 - k)⟩

/-- The last name of a path; a path without names has an empty one. -/
def name (path : Path) : String := path.names.getLast?.getD ""

/-- The last part of a name from its last dot on, when something stands on both sides of the
dot. -/
def suffix (path : Path) : String :=
  let reversed := path.name.toList.reverse
  let after := reversed.takeWhile (· != '.')
  let before := reversed.drop (after.length + 1)
  if after.isEmpty || before.isEmpty then "" else String.ofList ('.' :: after.reverse)

/-- Whether a name of a path holds the null character. -/
def hasNull (path : Path) : Bool := path.names.any fun name => name.toList.contains '\x00'

/-- Names with every `..` taken back with the name before it; at the root it stands for nothing. -/
def collapse (names : List String) : List String :=
  names.foldl (fun kept name => if name = ".." then kept.dropLast else kept ++ [name]) []

/-- The absolute path that a path seen from a directory leads to. -/
def resolve (directory path : Path) : Path :=
  let joined := directory.join path
  ⟨joined.slashes, collapse joined.names⟩

end Path

end StyleTokens
