import Mathlib.Data.Finset.Card
import Mathlib.Logic.Function.Basic
import StyleTokens.Proofs.Files.Descent
import StyleTokens.Proofs.Number.Digits

/-!
# File systems that fail

A file system may refuse what it is asked, and what it has done till then stays: some of the
directories above the one that was to be made, or some of the bytes that were to be written. A file
that is staged may get any name that is not taken. Whatever happens is seen in a directory, or
leaves a directory that is not there as empty as it was.
-/

namespace StyleTokens.FileTree

variable {tree after : FileTree} {directory : Path} {place : List String} {name : String}
variable {bytes : List UInt8}

/-! ### What a request may come to -/

/-- A request that fails: it is refused, and of a change there may be a part. -/
def Fails : (request : FileRequest) → FileTree → request.Answer → FileTree → Prop
  | .exists? _, tree, reply, after => (∃ fault, reply = .error fault) ∧ after = tree
  | .isFile _, _, _, _ => False
  | .read _, tree, reply, after => (∃ fault, reply = .error fault) ∧ after = tree
  | .list _, _, _, _ => False
  | .makeDirectories path, tree, reply, after =>
    (∃ fault, reply = .error fault) ∧
      (after = tree ∨ ∃ above ∈ path.parents, tree.makeDirectories above = .ok after)
  | .stage _ _, tree, reply, after => (∃ fault, reply = .error fault) ∧ after = tree
  | .write path _, tree, reply, after =>
    (∃ fault, reply = .error fault) ∧
      (after = tree ∨ ∃ part, tree.write path part = .ok after)
  | .append path _, tree, reply, after =>
    (∃ fault, reply = .error fault) ∧
      (after = tree ∨ ∃ part, tree.append path part = .ok after)
  | .rename _ _, tree, reply, after => (∃ fault, reply = .error fault) ∧ after = tree
  | .discard _, tree, reply, after => (∃ fault, reply = .error fault) ∧ after = tree

/-- The name of a file that is staged under a mark of its own. -/
def markedName (stem mark : String) : String := stem ++ "." ++ mark ++ ".tmp"

/-- What a request may come to, if those of some sort may fail. -/
inductive Meets (fallible : FileRequest → Prop) :
    (request : FileRequest) → FileTree → request.Answer → FileTree → Prop where
  /-- The request is met. -/
  | answered (request : FileRequest) (tree : FileTree) :
    Meets fallible request tree (answer request tree).1 (answer request tree).2
  /-- A file is staged under another name that is not taken. -/
  | staged {directory : Path} {stem mark : String} {tree after : FileTree}
    (hname : IsFileName (markedName stem mark))
    (hfree : tree.Lacks (directory.child (markedName stem mark)))
    (hwrite : tree.write (directory.child (markedName stem mark)) [] = .ok after) :
    Meets fallible (.stage directory stem) tree (.ok (directory.child (markedName stem mark))) after
  /-- The request fails. -/
  | failed {request : FileRequest} {tree after : FileTree} {reply : request.Answer}
    (hfallible : fallible request) (hfails : Fails request tree reply after) :
    Meets fallible request tree reply after

/-! ### New names -/

/-- A path leads to a directory in which there is, under every name, what a view says. -/
def Holds (tree : FileTree) (directory : Path) (view : String → Option FileNode) : Prop :=
  ∃ things, tree.Shows directory things ∧ ∀ name, things.find? name = view name

namespace Holds

variable {view : String → Option FileNode} {fallible : FileRequest → Prop} {stem target : String}
variable {reply : Except FileFault Unit}

/-- A file that is written is seen under its name. -/
theorem write_child (h : tree.Holds directory view) (hname : IsFileName name)
    (hfree : view name ≠ some .directory) (bytes : List UInt8) :
    ∃ after, tree.write (directory.child name) bytes = .ok after ∧
      after.Holds directory (Function.update view name (some (.file bytes))) := by
  obtain ⟨things, hshows, hview⟩ := h
  obtain ⟨after, hwrite, hafter⟩ := hshows.write_child hname (by rwa [hview]) bytes
  refine ⟨after, hwrite, _, hafter, fun other => ?_⟩
  rw [Keyed.find?_put, hview, Function.update_apply]
  simp only [eq_comm]

theorem find_child (h : tree.Holds directory view) (hname : IsFileName name) :
    tree.find (directory.child name) = (view name).elim (.error .missing) .ok := by
  obtain ⟨things, hshows, hview⟩ := h
  rw [hshows.find_child hname, hview]

variable (h : tree.Holds directory view)
include h

theorem find : tree.find directory = .ok .directory := by
  obtain ⟨things, hshows, -⟩ := h
  exact hshows.find

end Holds

/-! ### A directory that may not be there -/

/-- What is in a directory; nothing is in one that is not there. -/
inductive Offers (tree : FileTree) (directory : Path) (view : String → Option FileNode) : Prop where
  /-- The directory is there. -/
  | present (hholds : tree.Holds directory view)
  /-- The directory is not there. -/
  | absent (hbarren : tree.Barren directory) (hview : ∀ name, view name = none)

end StyleTokens.FileTree
