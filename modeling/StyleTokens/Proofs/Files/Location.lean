import StyleTokens.Files.Tree
import StyleTokens.Proofs.Outcome
import StyleTokens.Proofs.Text.Words

/-!
# Where paths lead

A path to a directory, with one further name, leads to what stands under the name in that
directory. A path leads where it led before as long as no directory goes away, and below a path
that leads nowhere there is nothing.
-/

namespace StyleTokens

/-- A name that a file can have: it is one name when it is read as a path, and leads to nothing
else. -/
structure IsFileName (name : String) : Prop where
  /-- It is no name that drops out of a path or leads back. -/
  not_special : name ∉ ["", ".", ".."]
  /-- It is one name. -/
  no_slash : '/' ∉ name.toList
  /-- A file system takes it. -/
  no_null : '\x00' ∉ name.toList
  /-- It is not too long. -/
  size_le : name.utf8ByteSize ≤ FileTree.nameBound

/-- A path with one further name has that name last. -/
theorem Path.child_eq {name : String} (hspecial : name ∉ ["", ".", ".."])
    (hslash : '/' ∉ name.toList) (directory : Path) :
    directory.child name = ⟨directory.slashes, directory.names ++ [name]⟩ := by
  have hparts : Text.splitString '/' name = [name] := by
    have hone : Text.splitWhere (· == '/') name.toList = [name.toList] :=
      Text.splitWhere_of_forall fun c hc => by
        simpa using fun heq : c = '/' => hslash (heq ▸ hc)
    rw [Text.splitString, hone, List.map_singleton, String.ofList_toList]
  have hslashes : name.toList.takeWhile (· == '/') = [] := by
    cases hchars : name.toList with
    | nil => rfl
    | cons c rest =>
      have hc : ¬c = '/' := fun heq => hslash (by rw [hchars, heq]; exact List.mem_cons_self)
      simp [hc]
  simp only [List.mem_cons, List.not_mem_nil, or_false, not_or] at hspecial
  have hone : Path.ofText name = ⟨0, [name]⟩ := by
    simp [Path.ofText, hparts, Path.leadingSlashes, hslashes, hspecial.1, hspecial.2.1]
  rw [Path.child, hone]
  rfl

/-- The name of a file comes last in a path. -/
theorem IsFileName.child_eq {name : String} (h : IsFileName name) (directory : Path) :
    directory.child name = ⟨directory.slashes, directory.names ++ [name]⟩ :=
  Path.child_eq h.not_special h.no_slash directory

namespace FileTree

variable {tree after : FileTree} {path : Path} {place : List String} {name : String}

theorem enter_eq_ok_iff : tree.enter place = .ok () ↔ tree.node? place = some .directory := by
  unfold enter
  cases tree.node? place with
  | none => simp
  | some node => cases node <;> simp

/-- A walk along some names and then others is a walk along the former, and on from there. -/
theorem walk_append (names more : List String) :
    tree.walk place (names ++ more) = tree.walk place names >>= fun between =>
      tree.walk between more := by
  induction names generalizing place with
  | nil => rfl
  | cons first rest ih =>
    simp only [List.cons_append, walk, bind_assoc]
    refine bind_congr fun _ => ?_
    by_cases hlong : nameBound < first.utf8ByteSize
    · rw [if_pos hlong, if_pos hlong]
      rfl
    · rw [if_neg hlong, if_neg hlong]
      exact ih

/-- A walk along the name of a file goes on from a directory, and ends under that name. -/
theorem walk_singleton (h : IsFileName name) :
    tree.walk place [name] = tree.enter place >>= fun _ => .ok (place ++ [name]) := by
  have hback : name ≠ ".." := by
    have hspecial := h.not_special
    simp only [List.mem_cons, List.not_mem_nil, or_false, not_or] at hspecial
    exact hspecial.2.2
  simp only [walk, if_neg (Nat.not_lt.mpr h.size_le), if_neg hback]

/-- The directories of one tree are directories in another too. -/
def KeepsDirectories (tree after : FileTree) : Prop :=
  after.current = tree.current ∧
    ∀ place, tree.node? place = some .directory → after.node? place = some .directory

/-- A walk comes to the same place when no directory goes away. -/
theorem KeepsDirectories.walk (h : tree.KeepsDirectories after) {names between : List String}
    (hwalk : tree.walk place names = .ok between) : after.walk place names = .ok between := by
  induction names generalizing place with
  | nil => exact hwalk
  | cons first rest ih =>
    obtain ⟨⟨⟩, henter, hrest⟩ := bind_eq_ok_iff.mp hwalk
    refine bind_eq_ok_iff.mpr ⟨(), enter_eq_ok_iff.mpr (h.2 place (enter_eq_ok_iff.mp henter)), ?_⟩
    split at hrest
    · cases hrest
    · rename_i hlong
      rw [if_neg hlong]
      exact ih hrest

/-- A path leads to the same place when no directory goes away. -/
theorem KeepsDirectories.locate (h : tree.KeepsDirectories after)
    (hlocate : tree.locate path = .ok place) : after.locate path = .ok place := by
  unfold FileTree.locate at hlocate ⊢
  by_cases hnull : path.hasNull = true
  · rw [if_pos hnull] at hlocate
    cases hlocate
  · rw [if_neg hnull] at hlocate ⊢
    rw [h.1]
    exact h.walk hlocate

theorem KeepsDirectories.rfl : tree.KeepsDirectories tree := ⟨.refl _, fun _ h => h⟩

theorem KeepsDirectories.trans {last : FileTree} (h : tree.KeepsDirectories after)
    (hlast : after.KeepsDirectories last) : tree.KeepsDirectories last :=
  ⟨hlast.1.trans h.1, fun place hplace => hlast.2 place (h.2 place hplace)⟩

/-- What a path with one further name leads to is told from where the path leads. -/
theorem locate_child (h : IsFileName name) (directory : Path) :
    tree.locate (directory.child name) = tree.locate directory >>= fun place =>
      tree.enter place >>= fun _ => .ok (place ++ [name]) := by
  have hnull : (directory.child name).hasNull = directory.hasNull := by
    simp [Path.hasNull, h.child_eq, h.no_null]
  unfold locate
  rw [hnull, h.child_eq]
  by_cases hdirectory : directory.hasNull = true
  · rw [if_pos hdirectory, if_pos hdirectory]
    rfl
  · rw [if_neg hdirectory, if_neg hdirectory]
    exact (walk_append directory.names [name]).trans (bind_congr fun _ => walk_singleton h)

/-- Something is found where a path leads to it. -/
theorem find_eq_ok_iff {node : FileNode} :
    tree.find path = .ok node ↔
      ∃ place, tree.locate path = .ok place ∧ tree.node? place = some node := by
  unfold find
  rw [bind_eq_ok_iff]
  refine exists_congr fun place => and_congr_right fun _ => ?_
  cases tree.node? place <;> simp

/-- What is found at a path is there. -/
theorem exists?_of_find {node : FileNode} (h : tree.find path = .ok node) :
    tree.exists? path = .ok true := by
  rw [exists?, h]

/-- A file that is found at a path can be read. -/
theorem read_of_find {bytes : List UInt8} (h : tree.find path = .ok (.file bytes)) :
    tree.read path = .ok bytes := by
  rw [read, h]
  rfl

/-- Below a path where nothing is found nothing is found either, and for the same reason. -/
theorem find_child_of_error {problem : FileProblem} (h : tree.find path = .error problem)
    (hname : IsFileName name) : tree.find (path.child name) = .error problem := by
  -- Either the walk to the path fails already, or it ends where nothing stands and goes no further.
  unfold find at h ⊢
  rw [locate_child hname]
  cases hlocate : tree.locate path with
  | error problem =>
    rw [hlocate] at h
    cases h
    rfl
  | ok place =>
    rw [hlocate, ok_bind] at h
    have henter : tree.enter place = .error problem := by
      unfold enter
      cases hnode : tree.node? place with
      | none =>
        rw [hnode] at h
        cases h
        rfl
      | some node =>
        rw [hnode] at h
        cases h
    rw [ok_bind, henter, error_bind, error_bind]

/-- Below a path to a file there is nothing. -/
theorem find_child_of_file {bytes : List UInt8} (h : tree.find path = .ok (.file bytes))
    (hname : IsFileName name) : tree.find (path.child name) = .error .notDirectory := by
  obtain ⟨place, hlocate, hnode⟩ := find_eq_ok_iff.mp h
  have henter : tree.enter place = .error .notDirectory := by rw [enter, hnode]
  rw [find, locate_child hname, hlocate, ok_bind, henter, error_bind, error_bind]

/-- There is nothing at a path, and everything above it that there is, is a directory. -/
def Lacks (tree : FileTree) (path : Path) : Prop := tree.find path = .error .missing

namespace Lacks

/-- Below a path that leads nowhere there is nothing. -/
theorem child (h : tree.Lacks path) (hname : IsFileName name) : tree.Lacks (path.child name) :=
  find_child_of_error h hname

theorem exists?_eq (h : tree.Lacks path) : tree.exists? path = .ok false := by
  rw [exists?, h]

/-- Where there is nothing, there is nothing to discard. -/
theorem discard_eq (h : tree.Lacks path) : tree.discard path = .ok tree := by
  have hremove : tree.remove path = .error ⟨.missing, [path.text]⟩ := by
    unfold Lacks find at h
    unfold remove about
    cases hlocate : tree.locate path with
    | error problem =>
      rw [hlocate] at h
      cases h
      rfl
    | ok place =>
      rw [hlocate, ok_bind] at h
      rw [ok_bind]
      cases hnode : tree.node? place with
      | none => rfl
      | some node =>
        rw [hnode] at h
        cases h
  rw [discard, hremove]

end Lacks

end FileTree

end StyleTokens
