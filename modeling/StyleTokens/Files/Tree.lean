import StyleTokens.Fault
import StyleTokens.Files.Path
import StyleTokens.Files.Problem

/-!
# Trees of files

A tree holds files and directories, each under the names that lead to it from the root. Paths are
walked name by name, from the root or from the current directory: every name but the last has to
lead to a directory, and `..` leads back to the directory above.
-/

namespace StyleTokens

/-- What stands under a name. -/
inductive FileNode where
  /-- A file with its bytes. -/
  | file (bytes : List UInt8)
  /-- A directory. -/
  | directory
  deriving DecidableEq, Repr

/-- Files and directories by the names that lead to them; the root is always a directory. -/
structure FileTree where
  /-- The nodes below the root, in order of creation. -/
  nodes : List (List String × FileNode)
  /-- The directory that relative paths start from. -/
  current : List String
  deriving DecidableEq, Repr

namespace FileTree

/-- A tree without files. -/
def empty : FileTree := ⟨[], []⟩

/-- What stands at the given names. -/
def node? (tree : FileTree) (names : List String) : Option FileNode :=
  if names.isEmpty then some .directory else tree.nodes.lookup names

/-- Goes on from a place only if it is a directory. -/
def enter (tree : FileTree) (place : List String) : Except FileProblem Unit :=
  match tree.node? place with
  | some .directory => .ok ()
  | some (.file _) => .error .notDirectory
  | none => .error .missing

/-- How many bytes a name has at most. -/
def nameBound : Nat := 255

/-- The names that a walk along further names arrives at; the last of them may lead nowhere. -/
def walk (tree : FileTree) (place : List String) : List String → Except FileProblem (List String)
  | [] => .ok place
  | name :: rest => do
    tree.enter place
    if nameBound < name.utf8ByteSize then .error .nameTooLong
    else tree.walk (if name = ".." then place.dropLast else place ++ [name]) rest

/-- The names that a path leads to, from the root or from the current directory. -/
def locate (tree : FileTree) (path : Path) : Except FileProblem (List String) :=
  if path.hasNull then .error .nullCharacter
  else tree.walk (if path.isAbsolute then [] else tree.current) path.names

/-- What stands at a path. -/
def find (tree : FileTree) (path : Path) : Except FileProblem FileNode := do
  match tree.node? (← tree.locate path) with
  | some node => .ok node
  | none => .error .missing

/-- An outcome with the path it concerns. -/
def about {α : Type} (path : Path) (outcome : Except FileProblem α) : Except FileFault α :=
  outcome.mapError fun problem => ⟨problem, [path.text]⟩

/-- The absolute path that a path seen from a directory leads to. -/
def resolve (directory path : Path) : Except FileFault Path :=
  about path (if path.hasNull then .error .nullCharacter else .ok (Path.resolve directory path))

/-- Whether something stands at a path. A name that is too long cannot even be looked for. -/
def exists? (tree : FileTree) (path : Path) : Except FileFault Bool :=
  match tree.find path with
  | .ok _ => .ok true
  | .error .nameTooLong => .error ⟨.nameTooLong, [path.text]⟩
  | .error _ => .ok false

/-- Whether a file stands at a path. -/
def isFile (tree : FileTree) (path : Path) : Bool :=
  match tree.find path with
  | .ok (.file _) => true
  | _ => false

/-- Whether a directory stands at a path. -/
def isDirectory (tree : FileTree) (path : Path) : Bool :=
  match tree.find path with
  | .ok .directory => true
  | _ => false

/-- The bytes of the file at a path. -/
def read (tree : FileTree) (path : Path) : Except FileFault (List UInt8) :=
  about path do
    match ← tree.find path with
    | .file bytes => .ok bytes
    | .directory => .error .isDirectory

/-- A node put at the given names: an earlier one is replaced where it stands. -/
def putNode (nodes : List (List String × FileNode)) (names : List String) (node : FileNode) :
    List (List String × FileNode) :=
  match nodes with
  | [] => [(names, node)]
  | (other, old) :: rest =>
    if other = names then (names, node) :: rest else (other, old) :: putNode rest names node

/-- The tree with a node put at the given names. -/
def put (tree : FileTree) (names : List String) (node : FileNode) : FileTree :=
  { tree with nodes := putNode tree.nodes names node }

/-- The tree without the node at the given names. -/
def drop (tree : FileTree) (names : List String) : FileTree :=
  { tree with nodes := tree.nodes.filter fun entry => entry.1 != names }

/-- Writes a file, which is created if it is new; its directory has to be there. -/
def write (tree : FileTree) (path : Path) (bytes : List UInt8) : Except FileFault FileTree :=
  about path do
    let place ← tree.locate path
    tree.enter place.dropLast
    if tree.node? place = some .directory then .error .isDirectory
    else .ok (tree.put place (.file bytes))

/-- Makes one directory. -/
def makeDirectory (tree : FileTree) (path : Path) : Except FileFault FileTree :=
  about path do
    let place ← tree.locate path
    if (tree.node? place).isSome then .error .occupied
    else .ok (tree.put place .directory)

/-- Makes one directory, unless it is there already. -/
def ensureDirectory (tree : FileTree) (path : Path) : Except FileFault FileTree :=
  match tree.makeDirectory path with
  | .ok made => .ok made
  | .error fault => if tree.isDirectory path then .ok tree else .error fault

/-- Makes a directory and those above it that are missing, outermost first; `depth` bounds how
many there can be. -/
def makeMissing (tree : FileTree) (path : Path) : Nat → Except FileFault FileTree
  | 0 => .ok tree
  | depth + 1 =>
    match tree.ensureDirectory path with
    | .error ⟨.missing, _⟩ => do
      let above ← tree.makeMissing path.parent depth
      above.ensureDirectory path
    | outcome => outcome

/-- Makes sure that a path leads to a directory. -/
def makeDirectories (tree : FileTree) (path : Path) : Except FileFault FileTree :=
  tree.makeMissing path (path.names.length + 1)

/-- The tree after a directory could not be made: those above it that could be made are there. `depth`
bounds how many there can be. -/
def leftover (tree : FileTree) (path : Path) : Nat → FileTree
  | 0 => tree
  | depth + 1 =>
    match tree.ensureDirectory path with
    | .error ⟨.missing, _⟩ =>
      match tree.makeMissing path.parent depth with
      | .ok above => above
      | .error _ => tree.leftover path.parent depth
    | _ => tree

/-- Removes the file at a path. -/
def remove (tree : FileTree) (path : Path) : Except FileFault FileTree :=
  about path do
    let place ← tree.locate path
    match tree.node? place with
    | some (.file _) => .ok (tree.drop place)
    | some .directory => .error .isDirectory
    | none => .error .missing

/-- Removes the file at a path if there is one. -/
def discard (tree : FileTree) (path : Path) : Except FileFault FileTree :=
  match tree.remove path with
  | .error ⟨.missing, _⟩ => .ok tree
  | outcome => outcome

/-- Puts the file at one path in the place of another's, in one step. -/
def rename (tree : FileTree) (source target : Path) : Except FileFault FileTree :=
  let outcome : Except FileProblem FileTree := do
    let sourcePlace ← tree.locate source
    let targetPlace ← tree.locate target
    match tree.node? sourcePlace with
    | some (.file bytes) =>
      if tree.node? targetPlace = some .directory then .error .isDirectory
      else .ok ((tree.drop sourcePlace).put targetPlace (.file bytes))
    | some .directory => .error .isDirectory
    | none => .error .missing
  outcome.mapError fun problem => ⟨problem, [source.text, target.text]⟩

/-- The names that stand in a directory, in order of creation. -/
def namesIn (tree : FileTree) (place : List String) : List String :=
  tree.nodes.filterMap fun entry =>
    if entry.1.dropLast = place then entry.1.getLast? else none

/-- The names in the directory at a path; none if there is no directory. -/
def list (tree : FileTree) (path : Path) : List String :=
  match tree.locate path with
  | .ok place => if tree.node? place = some .directory then tree.namesIn place else []
  | .error _ => []

end FileTree

end StyleTokens
