import StyleTokens.Proofs.Files.Directory

/-!
# Paths that lead down

A path without `..` leads to the place that it names, so making the directories above it changes
nothing at that place or below it. A making that fails half-way leaves the tree as if one of those
directories had been asked for. So where there is no directory yet, nothing is found until there is.
-/

namespace StyleTokens

/-- A path without `..` all of whose names a file system takes for their size. -/
def Path.LeadsDown (path : Path) : Prop :=
  ∀ name ∈ path.names, name ≠ ".." ∧ name.utf8ByteSize ≤ FileTree.nameBound

instance (path : Path) : Decidable path.LeadsDown :=
  inferInstanceAs (Decidable (∀ name ∈ path.names, name ≠ ".." ∧
    name.utf8ByteSize ≤ FileTree.nameBound))

namespace Path

variable {path above : Path}

theorem LeadsDown.parent (h : path.LeadsDown) : path.parent.LeadsDown :=
  fun name hname => h name (List.dropLast_subset _ hname)

end Path

namespace FileTree

variable {tree made after : FileTree} {path above directory : Path} {place names : List String}
variable {name : String}

/-! ### Directories that are made -/

/-- Where a path that leads down leads. -/
def placeOf (tree : FileTree) (path : Path) : List String :=
  (if path.isAbsolute then [] else tree.current) ++ path.names

/-- A walk without `..` goes down. -/
theorem walk_eq_append (hnames : ∀ name ∈ names, name ≠ "..") {between : List String}
    (h : tree.walk place names = .ok between) : between = place ++ names := by
  induction names generalizing place with
  | nil =>
    cases h
    exact (List.append_nil _).symm
  | cons first rest ih =>
    rw [List.forall_mem_cons] at hnames
    obtain ⟨⟨⟩, -, hrest⟩ := bind_eq_ok_iff.mp h
    by_cases hlong : nameBound < first.utf8ByteSize
    · rw [if_pos hlong] at hrest
      cases hrest
    · rw [if_neg hlong, if_neg hnames.1] at hrest
      rw [ih hnames.2 hrest, List.append_assoc, List.singleton_append]

/-- A path that leads down leads nowhere else. -/
theorem locate_eq_placeOf (hpath : path.LeadsDown) (h : tree.locate path = .ok place) :
    place = tree.placeOf path := by
  unfold locate at h
  by_cases hnull : path.hasNull = true
  · rw [if_pos hnull] at h
    cases h
  · rw [if_neg hnull] at h
    exact walk_eq_append (fun name hname => (hpath name hname).1) h

/-- Two trees are the same from some depth on. -/
def SameBelow (depth : Nat) (tree after : FileTree) : Prop :=
  after.current = tree.current ∧
    ∀ names, depth < names.length → after.node? names = tree.node? names

namespace SameBelow

variable {depth depth' : Nat} {last : FileTree}

theorem refl (depth : Nat) (tree : FileTree) : SameBelow depth tree tree := ⟨rfl, fun _ _ => rfl⟩

theorem trans (h : SameBelow depth tree after) (hlast : SameBelow depth after last) :
    SameBelow depth tree last :=
  ⟨hlast.1.trans h.1, fun names hnames => (hlast.2 names hnames).trans (h.2 names hnames)⟩

theorem mono (h : SameBelow depth tree after) (hle : depth ≤ depth') :
    SameBelow depth' tree after :=
  ⟨h.1, fun names hnames => h.2 names (by omega)⟩

end SameBelow

/-- A tree as a file system has it: names are names of files, and whatever there is stands in a
directory. -/
structure IsWellFormed (tree : FileTree) : Prop where
  /-- Names are names of files. -/
  isFileName : ∀ entry ∈ tree.nodes, ∀ name ∈ entry.1, IsFileName name
  /-- Everything stands in a directory. -/
  rooted : ∀ entry ∈ tree.nodes, tree.node? entry.1.dropLast = some .directory

namespace IsWellFormed

variable (hformed : tree.IsWellFormed)
include hformed

end IsWellFormed

/-- A path leads down to where no directory is, and nothing in it. -/
structure Barren (tree : FileTree) (directory : Path) : Prop where
  /-- The path leads down. -/
  leadsDown : directory.LeadsDown
  /-- There is no directory. -/
  no_directory : tree.node? (tree.placeOf directory) ≠ some .directory
  /-- There is nothing below. -/
  no_child : ∀ name, tree.node? (tree.placeOf directory ++ [name]) = none

/-- Names that are not too long do not keep a walk from going on. -/
theorem walk_ne_nameTooLong (hnames : ∀ name ∈ names, name.utf8ByteSize ≤ nameBound) :
    tree.walk place names ≠ .error .nameTooLong := by
  induction names generalizing place with
  | nil => simp [walk]
  | cons first rest ih =>
    rw [List.forall_mem_cons] at hnames
    rw [walk]
    cases henter : tree.enter place with
    | error problem =>
      rw [error_bind]
      unfold enter at henter
      split at henter <;> cases henter <;> simp
    | ok entered =>
      rw [ok_bind, if_neg (by omega)]
      exact ih hnames.2

namespace Barren

variable (h : tree.Barren directory)
include h

/-- In a directory that is not there nothing is found, and not for the size of a name. -/
theorem find_child (hname : IsFileName name) :
    ∃ problem, tree.find (directory.child name) = .error problem ∧ problem ≠ .nameTooLong := by
  cases hfind : tree.find directory with
  | error problem =>
    refine ⟨problem, find_child_of_error hfind hname, ?_⟩
    rintro rfl
    unfold find at hfind
    cases hlocate : tree.locate directory with
    | ok place =>
      rw [hlocate, ok_bind] at hfind
      split at hfind <;> cases hfind
    | error problem =>
      rw [hlocate] at hfind
      cases hfind
      unfold locate at hlocate
      by_cases hnull : directory.hasNull = true
      · rw [if_pos hnull] at hlocate
        cases hlocate
      · rw [if_neg hnull] at hlocate
        exact walk_ne_nameTooLong (fun name hname => (h.leadsDown name hname).2) hlocate
  | ok node =>
    cases node with
    | file bytes => exact ⟨.notDirectory, find_child_of_file hfind hname, by decide⟩
    | directory =>
      obtain ⟨place, hlocate, hnode⟩ := find_eq_ok_iff.mp hfind
      obtain rfl := locate_eq_placeOf h.leadsDown hlocate
      exact absurd hnode h.no_directory

end Barren

end FileTree

end StyleTokens
