import StyleTokens.Dialogue
import StyleTokens.Files.Tree

/-!
# Requests for files

What the library asks of a file system, and the answers that a tree of files gives.
-/

namespace StyleTokens

/-- A request to a file system. -/
inductive FileRequest where
  /-- Whether something stands at a path. -/
  | exists? (path : Path)
  /-- Whether a file stands at a path. -/
  | isFile (path : Path)
  /-- The bytes of a file. -/
  | read (path : Path)
  /-- The names in a directory. -/
  | list (path : Path)
  /-- To make a directory and those above it, if they are missing. -/
  | makeDirectories (path : Path)
  /-- To create an empty file in a directory under a new name that begins as given. -/
  | stage (directory : Path) (stem : String)
  /-- To write a file. -/
  | write (path : Path) (bytes : List UInt8)
  /-- To write behind the end of a file. -/
  | append (path : Path) (bytes : List UInt8)
  /-- To put one file in the place of another. -/
  | rename (source target : Path)
  /-- To remove a file, if there is one. -/
  | discard (path : Path)
  deriving DecidableEq, Repr

/-- What a request to a file system is answered with. -/
def FileRequest.Answer : FileRequest → Type
  | .exists? _ => Except FileFault Bool
  | .isFile _ => Bool
  | .read _ => Except FileFault (List UInt8)
  | .list _ => List String
  | .stage _ _ => Except FileFault Path
  | .makeDirectories _ | .write _ _ | .append _ _ | .rename _ _ | .discard _ =>
    Except FileFault Unit

/-- A computation with files. -/
abbrev FileDialogue := Dialogue FileRequest FileRequest.Answer

namespace FileTree

/-- The tree after a change, or the tree as it was when the change failed. -/
def afterwards (tree : FileTree) (outcome : Except FileFault FileTree) :
    Except FileFault Unit × FileTree :=
  match outcome with
  | .ok changed => (.ok (), changed)
  | .error fault => (.error fault, tree)

/-- A name that begins as given and is not taken in a directory; the number in it is less than
`attempts`. -/
def freshName (tree : FileTree) (directory : Path) (stem : String) (attempts : Nat) : Path :=
  let name (k : Nat) : Path := directory.child (stem ++ "." ++ toString k ++ ".tmp")
  name (((List.range attempts).find? fun k => (tree.find (name k)).toOption.isNone).getD attempts)

/-- Creates an empty file under a new name. -/
def stage (tree : FileTree) (directory : Path) (stem : String) :
    Except FileFault (Path × FileTree) :=
  let path := tree.freshName directory stem (tree.nodes.length + 1)
  (tree.write path []).map fun changed => (path, changed)

/-- Writes behind the end of a file, which is created if it is new. -/
def append (tree : FileTree) (path : Path) (bytes : List UInt8) : Except FileFault FileTree :=
  match tree.read path with
  | .ok before => tree.write path (before ++ bytes)
  | .error ⟨.missing, _⟩ => tree.write path bytes
  | .error fault => .error fault

/-- The answer of a tree to a request, and the tree afterwards. -/
def answer : (request : FileRequest) → FileTree → request.Answer × FileTree
  | .exists? path, tree => (tree.exists? path, tree)
  | .isFile path, tree => (tree.isFile path, tree)
  | .read path, tree => (tree.read path, tree)
  | .list path, tree => (tree.list path, tree)
  | .makeDirectories path, tree =>
    match tree.makeDirectories path with
    | .ok made => (.ok (), made)
    | .error fault => (.error fault, tree.leftover path (path.names.length + 1))
  | .stage directory stem, tree =>
    match tree.stage directory stem with
    | .ok (path, changed) => (.ok path, changed)
    | .error fault => (.error fault, tree)
  | .write path bytes, tree => tree.afterwards (tree.write path bytes)
  | .append path bytes, tree => tree.afterwards (tree.append path bytes)
  | .rename source target, tree => tree.afterwards (tree.rename source target)
  | .discard path, tree => tree.afterwards (tree.discard path)

end FileTree

/-- Runs a computation with the files of a tree. -/
def FileDialogue.runOn {α : Type} (dialogue : FileDialogue α) (tree : FileTree) : α × FileTree :=
  dialogue.run FileTree.answer tree

end StyleTokens
