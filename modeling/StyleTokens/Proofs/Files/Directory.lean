import StyleTokens.Files.Request
import StyleTokens.Proofs.Files.Location
import StyleTokens.Proofs.Keyed

/-!
# What stands in a directory

A directory is seen through the things in it, by name. What is done to one of them by its path is
done to that view, and the path of the directory leads where it led before, because no directory
goes away.
-/

namespace StyleTokens.FileTree

variable {tree made : FileTree} {path : Path} {things : Keyed FileNode} {name : String}

/-! ### Things by name -/

/-- The last one of some names if the others are those of a place. -/
def nameIn? (place names : List String) : Option String :=
  if names.dropLast = place then names.getLast? else none

theorem nameIn?_eq_some_iff {place names : List String} {name : String} :
    nameIn? place names = some name ↔ names = place ++ [name] := by
  unfold nameIn?
  constructor
  · intro h
    by_cases hplace : names.dropLast = place
    · rw [if_pos hplace] at h
      obtain ⟨before, rfl⟩ := List.getLast?_eq_some_iff.mp h
      rw [← hplace, List.dropLast_concat]
    · rw [if_neg hplace] at h
      cases h
  · rintro rfl
    rw [if_pos List.dropLast_concat, List.getLast?_concat]

/-- What stands in a place, by name. -/
def childrenIn (place : List String) (nodes : List (List String × FileNode)) : Keyed FileNode :=
  nodes.filterMap fun entry => (nameIn? place entry.1).map fun name => (name, entry.2)

theorem childrenIn_cons (place names : List String) (node : FileNode)
    (rest : List (List String × FileNode)) :
    childrenIn place ((names, node) :: rest) =
      (nameIn? place names).elim (childrenIn place rest) fun name =>
        (name, node) :: childrenIn place rest := by
  unfold childrenIn
  cases hname : nameIn? place names <;> simp [hname]

theorem lookup_cons (names other : List String) (node : FileNode)
    (rest : List (List String × FileNode)) :
    ((names, node) :: rest).lookup other =
      if names = other then some node else rest.lookup other := by
  rw [List.lookup_cons]
  by_cases h : names = other
  · simp [h]
  · have hne : (other == names) = false := by simpa using Ne.symm h
    rw [hne, if_neg h]

/-- A thing is found by the names that lead to it. -/
theorem find?_childrenIn (place : List String) (nodes : List (List String × FileNode))
    (name : String) : (childrenIn place nodes).find? name = nodes.lookup (place ++ [name]) := by
  induction nodes with
  | nil => rfl
  | cons entry rest ih =>
    obtain ⟨names, node⟩ := entry
    rw [childrenIn_cons, lookup_cons]
    by_cases hnames : names = place ++ [name]
    · rw [nameIn?_eq_some_iff.mpr hnames, if_pos hnames]
      simp [Keyed.find?_cons]
    · rw [if_neg hnames]
      cases hname : nameIn? place names with
      | none => exact ih
      | some other =>
        have hother : other ≠ name := fun h => hnames (h ▸ nameIn?_eq_some_iff.mp hname)
        simp only [Option.elim_some, Keyed.find?_cons, if_neg hother]
        exact ih

/-- What is put by its names is put by its name. -/
theorem childrenIn_putNode (place : List String) (nodes : List (List String × FileNode))
    (name : String) (node : FileNode) :
    childrenIn place (putNode nodes (place ++ [name]) node) =
      (childrenIn place nodes).put name node := by
  have hlast : nameIn? place (place ++ [name]) = some name := nameIn?_eq_some_iff.mpr rfl
  induction nodes with
  | nil =>
    rw [putNode, childrenIn_cons, hlast]
    rfl
  | cons entry rest ih =>
    obtain ⟨names, old⟩ := entry
    rw [putNode]
    by_cases hnames : names = place ++ [name]
    · rw [if_pos hnames, childrenIn_cons, childrenIn_cons, hnames, hlast]
      simp [Keyed.put]
    · rw [if_neg hnames, childrenIn_cons, childrenIn_cons, ih]
      cases hname : nameIn? place names with
      | none => rfl
      | some other =>
        have hother : other ≠ name := fun h => hnames (h ▸ nameIn?_eq_some_iff.mp hname)
        simp [Keyed.put, hother]

/-- What is dropped by its names is dropped by its name. -/
theorem childrenIn_filter (place : List String) (nodes : List (List String × FileNode))
    (name : String) :
    childrenIn place (nodes.filter fun entry => entry.1 != place ++ [name]) =
      (childrenIn place nodes).filter fun entry => entry.1 != name := by
  induction nodes with
  | nil => rfl
  | cons entry rest ih =>
    obtain ⟨names, node⟩ := entry
    by_cases hnames : names = place ++ [name]
    · rw [List.filter_cons_of_neg (by simp [hnames]), childrenIn_cons,
        nameIn?_eq_some_iff.mpr hnames, ih]
      simp
    · rw [List.filter_cons_of_pos (by simpa using hnames), childrenIn_cons, childrenIn_cons, ih]
      cases hname : nameIn? place names with
      | none => rfl
      | some other =>
        have hother : other ≠ name := fun h => hnames (h ▸ nameIn?_eq_some_iff.mp hname)
        simp [hother]

/-! ### Directories stay -/

/-- What is put under some names is found there, and nothing else has changed. -/
theorem lookup_putNode (nodes : List (List String × FileNode)) (names other : List String)
    (node : FileNode) :
    (putNode nodes names node).lookup other =
      if names = other then some node else nodes.lookup other := by
  induction nodes with
  | nil => rw [putNode, lookup_cons]
  | cons entry rest ih =>
    obtain ⟨first, old⟩ := entry
    rw [putNode]
    by_cases hfirst : first = names
    · rw [if_pos hfirst, lookup_cons, lookup_cons, hfirst]
      by_cases hsame : names = other
      · rw [if_pos hsame, if_pos hsame]
      · rw [if_neg hsame, if_neg hsame, if_neg hsame]
    · rw [if_neg hfirst, lookup_cons, lookup_cons, ih]
      by_cases hother : first = other
      · rw [if_pos hother, if_pos hother, if_neg fun h => hfirst (hother.trans h.symm)]
      · rw [if_neg hother, if_neg hother]

/-- Of what is dropped nothing is found, and nothing else has changed. -/
theorem lookup_filter (nodes : List (List String × FileNode)) {names other : List String}
    (h : other ≠ names) :
    (nodes.filter fun entry => entry.1 != names).lookup other = nodes.lookup other := by
  induction nodes with
  | nil => rfl
  | cons entry rest ih =>
    by_cases hfirst : entry.1 = names
    · rw [List.filter_cons_of_neg (by simpa using hfirst), ih, lookup_cons,
        if_neg (hfirst ▸ Ne.symm h)]
    · rw [List.filter_cons_of_pos (by simpa using hfirst), lookup_cons, lookup_cons, ih]

theorem keepsDirectories_put {names : List String} {node : FileNode}
    (h : tree.node? names = some .directory → node = .directory) :
    tree.KeepsDirectories (tree.put names node) := by
  refine ⟨rfl, fun place hplace => ?_⟩
  unfold node? put at *
  by_cases hroot : place.isEmpty = true
  · rw [if_pos hroot]
  · rw [if_neg hroot] at hplace ⊢
    rw [lookup_putNode]
    by_cases hsame : names = place
    · rw [if_pos hsame, h (by rw [hsame, if_neg hroot]; exact hplace)]
    · rw [if_neg hsame]
      exact hplace

theorem keepsDirectories_drop {names : List String} (h : tree.node? names ≠ some .directory) :
    tree.KeepsDirectories (tree.drop names) := by
  refine ⟨rfl, fun place hplace => ?_⟩
  have hne : place ≠ names := fun heq => h (heq ▸ hplace)
  unfold node? drop at *
  by_cases hroot : place.isEmpty = true
  · rw [if_pos hroot]
  · rw [if_neg hroot] at hplace ⊢
    rw [lookup_filter _ hne]
    exact hplace

/-! ### Directories by path -/

/-- A path leads to a directory that holds the given things. -/
def Shows (tree : FileTree) (path : Path) (things : Keyed FileNode) : Prop :=
  ∃ place, tree.locate path = .ok place ∧ tree.node? place = some .directory ∧
    childrenIn place tree.nodes = things

theorem node?_concat (tree : FileTree) (place : List String) (name : String) :
    tree.node? (place ++ [name]) = (childrenIn place tree.nodes).find? name := by
  rw [find?_childrenIn, node?, if_neg (by simp)]

/-- Where a thing in a directory is. -/
theorem locate_child_of_directory {place : List String} (hlocate : tree.locate path = .ok place)
    (hdirectory : tree.node? place = some .directory) (hname : IsFileName name) :
    tree.locate (path.child name) = .ok (place ++ [name]) := by
  rw [locate_child hname, hlocate, ok_bind, enter_eq_ok_iff.mpr hdirectory, ok_bind]

/-- The first name under which a file is staged. -/
def stagedName (stem : String) : String := stem ++ ".0.tmp"

namespace Shows

theorem find (h : tree.Shows path things) : tree.find path = .ok .directory := by
  obtain ⟨place, hlocate, hdirectory, -⟩ := h
  rw [FileTree.find, hlocate, ok_bind, hdirectory]

theorem exists?_eq (h : tree.Shows path things) : tree.exists? path = .ok true :=
  exists?_of_find h.find

/-- The names in a directory are those of its things. -/
theorem list_eq (h : tree.Shows path things) : tree.list path = things.names := by
  obtain ⟨place, hlocate, hdirectory, rfl⟩ := h
  rw [list, hlocate]
  simp only [if_pos hdirectory]
  unfold namesIn childrenIn Keyed.names nameIn?
  rw [List.map_filterMap]
  refine congrArg (fun name? => tree.nodes.filterMap name?) (funext fun entry => ?_)
  rw [Option.map_map]
  exact (congrFun Option.map_id _).symm

/-- A directory that is there need not be made. -/
theorem ensureDirectory_eq (h : tree.Shows path things) :
    tree.ensureDirectory path = .ok tree := by
  have hfind := h.find
  obtain ⟨place, hlocate, hdirectory, -⟩ := h
  have hmake : tree.makeDirectory path = .error ⟨.occupied, [path.text]⟩ := by
    rw [makeDirectory, hlocate, ok_bind, if_pos (by simp [hdirectory])]
    rfl
  simp [ensureDirectory, hmake, isDirectory, hfind]

theorem makeDirectories_eq (h : tree.Shows path things) :
    tree.makeDirectories path = .ok tree := by
  rw [makeDirectories, makeMissing, h.ensureDirectory_eq]

/-- What stands under a name is what the view has under it. -/
theorem find_child (h : tree.Shows path things) (hname : IsFileName name) :
    tree.find (path.child name) = (things.find? name).elim (.error .missing) .ok := by
  obtain ⟨place, hlocate, hdirectory, rfl⟩ := h
  rw [FileTree.find, locate_child_of_directory hlocate hdirectory hname, ok_bind, node?_concat]
  cases (childrenIn place tree.nodes).find? name <;> rfl

theorem exists?_child (h : tree.Shows path things) (hname : IsFileName name) :
    tree.exists? (path.child name) = .ok (things.find? name).isSome := by
  rw [FileTree.exists?, h.find_child hname]
  cases things.find? name <;> rfl

theorem read_child (h : tree.Shows path things) (hname : IsFileName name) {bytes : List UInt8}
    (hfile : things.find? name = some (.file bytes)) :
    tree.read (path.child name) = .ok bytes := by
  refine read_of_find ?_
  rw [h.find_child hname, hfile]
  rfl

/-- A file that is written is put under its name. -/
theorem write_child (h : tree.Shows path things) (hname : IsFileName name)
    (hfree : things.find? name ≠ some .directory) (bytes : List UInt8) :
    ∃ after, tree.write (path.child name) bytes = .ok after ∧
      after.Shows path (things.put name (.file bytes)) := by
  obtain ⟨place, hlocate, hdirectory, rfl⟩ := h
  rw [← node?_concat] at hfree
  have hkeeps : tree.KeepsDirectories (tree.put (place ++ [name]) (.file bytes)) :=
    keepsDirectories_put fun hnode => absurd hnode hfree
  refine ⟨tree.put (place ++ [name]) (.file bytes), ?_, place, hkeeps.locate hlocate,
    hkeeps.2 place hdirectory, childrenIn_putNode place tree.nodes name _⟩
  rw [FileTree.write, locate_child_of_directory hlocate hdirectory hname, ok_bind,
    List.dropLast_concat, enter_eq_ok_iff.mpr hdirectory, ok_bind, if_neg hfree]
  rfl

/-- A file that is discarded is gone; none need be there. -/
theorem discard_child (h : tree.Shows path things) (hname : IsFileName name)
    (hfile : things.find? name ≠ some .directory) :
    ∃ after, tree.discard (path.child name) = .ok after ∧
      after.Shows path (things.filter fun entry => entry.1 != name) := by
  have hfind := h.find_child hname
  obtain ⟨place, hlocate, hdirectory, rfl⟩ := h
  cases hnode : tree.node? (place ++ [name]) with
  | none =>
    have hnone := (node?_concat tree place name).symm.trans hnode
    have hlacks : tree.Lacks (path.child name) := by
      rw [Lacks, hfind, hnone]
      rfl
    exact ⟨tree, hlacks.discard_eq, place, hlocate, hdirectory,
      (Keyed.filter_of_find?_eq_none hnone).symm⟩
  | some node =>
    rw [← node?_concat, hnode] at hfile
    cases node with
    | directory => exact absurd rfl hfile
    | file bytes =>
      have hremove : tree.remove (path.child name) = .ok (tree.drop (place ++ [name])) := by
        rw [FileTree.remove, locate_child_of_directory hlocate hdirectory hname, ok_bind, hnode]
        rfl
      have hkeeps : tree.KeepsDirectories (tree.drop (place ++ [name])) :=
        keepsDirectories_drop (by simp [hnode])
      exact ⟨tree.drop (place ++ [name]), by rw [FileTree.discard, hremove], place,
        hkeeps.locate hlocate, hkeeps.2 place hdirectory, childrenIn_filter place tree.nodes name⟩

/-- A file that takes the place of another is under the other's name only. -/
theorem rename_child (h : tree.Shows path things) (hname : IsFileName name) {target : String}
    (htarget : IsFileName target) {bytes : List UInt8}
    (hfile : things.find? name = some (.file bytes))
    (hfree : things.find? target ≠ some .directory) :
    ∃ after, tree.rename (path.child name) (path.child target) = .ok after ∧
      after.Shows path
        (Keyed.put (things.filter fun entry => entry.1 != name) target (.file bytes)) := by
  obtain ⟨place, hlocate, hdirectory, rfl⟩ := h
  rw [← node?_concat] at hfile hfree
  have hdrop : tree.KeepsDirectories (tree.drop (place ++ [name])) :=
    keepsDirectories_drop (by simp [hfile])
  -- Dropping the file leaves what stands under the other name, unless the names are the same.
  have hfree' : (tree.drop (place ++ [name])).node? (place ++ [target]) ≠ some .directory := by
    intro hnode
    rw [node?_concat, drop, childrenIn_filter, Keyed.find?_filter _ (fun other => other != name)]
      at hnode
    rw [node?_concat] at hfree
    split at hnode
    · exact hfree hnode
    · cases hnode
  have hput : (tree.drop (place ++ [name])).KeepsDirectories
      ((tree.drop (place ++ [name])).put (place ++ [target]) (.file bytes)) :=
    keepsDirectories_put fun hnode => absurd hnode hfree'
  refine ⟨(tree.drop (place ++ [name])).put (place ++ [target]) (.file bytes), ?_, place,
    hput.locate (hdrop.locate hlocate), hput.2 place (hdrop.2 place hdirectory), ?_⟩
  · simp only [FileTree.rename, locate_child_of_directory hlocate hdirectory hname,
      locate_child_of_directory hlocate hdirectory htarget, ok_bind, hfile, if_neg hfree]
    rfl
  · rw [put, childrenIn_putNode, drop, childrenIn_filter]

/-- A file is staged under the first name for it if nothing stands there, and is empty. -/
theorem stage_child (h : tree.Shows path things) {stem : String}
    (hname : IsFileName (stagedName stem)) (hfree : things.find? (stagedName stem) = none) :
    ∃ after, tree.stage path stem = .ok (path.child (stagedName stem), after) ∧
      after.Shows path (things.put (stagedName stem) (.file [])) := by
  have htext : stem ++ "." ++ toString 0 ++ ".tmp" = stagedName stem := by
    rw [String.append_assoc, String.append_assoc]
    rfl
  have hlacks : tree.Lacks (path.child (stem ++ "." ++ toString 0 ++ ".tmp")) := by
    rw [Lacks, htext, h.find_child hname, hfree]
    rfl
  have hfresh :
      tree.freshName path stem (tree.nodes.length + 1) = path.child (stagedName stem) := by
    simp only [freshName, List.range_succ_eq_map]
    rw [List.find?_cons_of_pos (by rw [hlacks]; rfl), Option.getD_some, htext]
  obtain ⟨after, hwrite, hafter⟩ := h.write_child hname (by simp [hfree]) []
  exact ⟨after, by simp [FileTree.stage, hfresh, hwrite, Except.map], hafter⟩

end Shows

/-! ### Directories that are made -/

theorem about_eq_ok_iff {α : Type} {outcome : Except FileProblem α} {a : α} :
    about path outcome = .ok a ↔ outcome = .ok a := by
  constructor
  · intro h
    cases outcome with
    | ok b =>
      cases h
      rfl
    | error problem => cases h
  · rintro rfl
    rfl

/-- Where a directory is found, a path leads to one. -/
theorem exists_shows_of_find (h : tree.find path = .ok .directory) :
    ∃ things, tree.Shows path things := by
  obtain ⟨place, hlocate, hnode⟩ := bind_eq_ok_iff.mp h
  refine ⟨_, place, hlocate, ?_, rfl⟩
  cases hplace : tree.node? place with
  | none =>
    rw [hplace] at hnode
    cases hnode
  | some node =>
    rw [hplace] at hnode
    cases hnode
    rfl

/-- Making a directory leaves it where the path leads; it was there, or there was nothing. -/
theorem shows_of_ensureDirectory (h : tree.ensureDirectory path = .ok made) :
    (∃ things, made.Shows path things) ∧ (made = tree ∨ tree.Lacks path) := by
  unfold ensureDirectory at h
  cases hmake : tree.makeDirectory path with
  | ok changed =>
    rw [hmake] at h
    cases h
    obtain ⟨place, hlocate, hrest⟩ := bind_eq_ok_iff.mp (about_eq_ok_iff.mp hmake)
    by_cases hsome : (tree.node? place).isSome = true
    · rw [if_pos hsome] at hrest
      cases hrest
    · rw [if_neg hsome] at hrest
      cases hrest
      have hkeeps : tree.KeepsDirectories (tree.put place .directory) :=
        keepsDirectories_put fun _ => rfl
      have hnone : tree.node? place = none := by simpa using hsome
      have hplace : (tree.put place .directory).node? place = some .directory := by
        unfold node? put
        rw [lookup_putNode, if_pos rfl, ite_self]
      refine ⟨⟨_, place, hkeeps.locate hlocate, hplace, rfl⟩, .inr ?_⟩
      rw [Lacks, find, hlocate, ok_bind, hnone]
  | error fault =>
    by_cases hdirectory : tree.isDirectory path = true
    · simp only [hmake, if_pos hdirectory] at h
      cases h
      refine ⟨exists_shows_of_find ?_, .inl rfl⟩
      unfold isDirectory at hdirectory
      split at hdirectory
      · assumption
      · cases hdirectory
    · simp only [hmake, if_neg hdirectory] at h
      cases h

/-- A directory cannot be made for want of what is above it only where there is nothing. -/
theorem lacks_of_ensureDirectory {paths : List String}
    (h : tree.ensureDirectory path = .error ⟨.missing, paths⟩) : tree.Lacks path := by
  have hmake : tree.makeDirectory path = .error ⟨.missing, paths⟩ := by
    unfold ensureDirectory at h
    cases hmake : tree.makeDirectory path with
    | ok changed =>
      rw [hmake] at h
      cases h
    | error fault =>
      by_cases hdirectory : tree.isDirectory path = true
      · simp only [hmake, if_pos hdirectory] at h
        cases h
      · simpa only [hmake, if_neg hdirectory] using h
  unfold makeDirectory about at hmake
  cases hlocate : tree.locate path with
  | error problem =>
    rw [hlocate] at hmake
    cases hmake
    rw [Lacks, find, hlocate, error_bind]
  | ok place =>
    rw [hlocate, ok_bind] at hmake
    by_cases hsome : (tree.node? place).isSome = true
    · rw [if_pos hsome] at hmake
      cases hmake
    · rw [if_neg hsome] at hmake
      cases hmake

/-- Making a directory and those above it leaves it where the path leads; it was there, or there
was nothing. -/
theorem shows_of_makeDirectories (h : tree.makeDirectories path = .ok made) :
    (∃ things, made.Shows path things) ∧ (made = tree ∨ tree.Lacks path) := by
  unfold makeDirectories makeMissing at h
  split at h
  · rename_i paths hensure
    obtain ⟨above, -, hmade⟩ := bind_eq_ok_iff.mp h
    exact ⟨(shows_of_ensureDirectory hmade).1, .inr (lacks_of_ensureDirectory hensure)⟩
  · exact shows_of_ensureDirectory h

/-! ### Answers to requests -/

section Answers

variable {after : FileTree} {staged : Path} {bytes : List UInt8}

theorem answer_exists? (tree : FileTree) (path : Path) :
    answer (.exists? path) tree = (tree.exists? path, tree) := rfl

theorem answer_read (tree : FileTree) (path : Path) :
    answer (.read path) tree = (tree.read path, tree) := rfl

theorem answer_list (tree : FileTree) (path : Path) :
    answer (.list path) tree = (tree.list path, tree) := rfl

theorem answer_makeDirectories (h : tree.makeDirectories path = .ok after) :
    answer (.makeDirectories path) tree = (.ok (), after) := by
  delta answer
  dsimp only
  rw [h]

theorem answer_stage {stem : String} (h : tree.stage path stem = .ok (staged, after)) :
    answer (.stage path stem) tree = (.ok staged, after) := by
  delta answer
  dsimp only
  rw [h]

theorem answer_write (h : tree.write path bytes = .ok after) :
    answer (.write path bytes) tree = (.ok (), after) :=
  congrArg tree.afterwards h

theorem answer_rename (h : tree.rename staged path = .ok after) :
    answer (.rename staged path) tree = (.ok (), after) :=
  congrArg tree.afterwards h

theorem answer_discard (h : tree.discard path = .ok after) :
    answer (.discard path) tree = (.ok (), after) :=
  congrArg tree.afterwards h

end Answers

end StyleTokens.FileTree
