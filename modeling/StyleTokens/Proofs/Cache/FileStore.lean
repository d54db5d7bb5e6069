import Mathlib.Data.Sigma.Basic
import StyleTokens.Proofs.Cache.EntryFile
import StyleTokens.Proofs.Cache.MemoryStore
import StyleTokens.Proofs.Dialogue

/-!
# A store in files answers as one in memory

A store in files is held against one in memory: where the one has an entry, the other has a file
that says the same, named for the digest of the key. Every call keeps them so and is answered alike
by both, as long as no two keys have the same digest.
-/

namespace StyleTokens

/-- The keys that a call of a store names. -/
def StoreRequest.keys : StoreRequest → List String
  | .get key => [key]
  | .set key _ _ => [key]
  | .delete key => [key]
  | .deletePrefix _ => []

instance : (request : StoreRequest) → DecidableEq request.Result
  | .get _ => inferInstanceAs (DecidableEq (Option String))
  | .set .. => inferInstanceAs (DecidableEq Unit)
  | .delete _ => inferInstanceAs (DecidableEq Unit)
  | .deletePrefix _ => inferInstanceAs (DecidableEq Nat)

namespace FileStore

/-- No two keys have the same digest. -/
def StemsDiffer (used : List String) : Prop :=
  ∀ key ∈ used, ∀ other ∈ used, stem key = stem other → key = other

instance (used : List String) : Decidable (StemsDiffer used) :=
  inferInstanceAs (Decidable (∀ key ∈ used, ∀ other ∈ used, stem key = stem other → key = other))

/-- Entries under different keys among those that are used, each of which can be written. -/
structure Fits (used : List String) (entries : Keyed MemoryEntry) : Prop where
  /-- No key comes up twice. -/
  nodup : entries.names.Nodup
  /-- The keys are used. -/
  used_of_mem : ∀ key ∈ entries.names, key ∈ used
  /-- The entries can be written. -/
  writable : ∀ entry ∈ entries, entry.2.IsWritable

namespace Fits

variable {used : List String} {entries : Keyed MemoryEntry}

theorem nil (used : List String) : Fits used [] :=
  ⟨List.nodup_nil, by simp [Keyed.names], by simp⟩

theorem filter (h : Fits used entries) (keep : String × MemoryEntry → Bool) :
    Fits used (entries.filter keep) where
  nodup := h.nodup.sublist (List.filter_sublist.map _)
  used_of_mem key hkey := by
    obtain ⟨entry, hentry, rfl⟩ := List.mem_map.mp hkey
    exact h.used_of_mem _ (List.mem_map.mpr ⟨entry, (List.mem_filter.mp hentry).1, rfl⟩)
  writable entry hentry := h.writable entry ((List.mem_filter.mp hentry).1)

theorem put (h : Fits used entries) {key : String} (hkey : key ∈ used) {entry : MemoryEntry}
    (hentry : entry.IsWritable) : Fits used (entries.put key entry) where
  nodup := Keyed.nodup_names_put h.nodup key entry
  used_of_mem other hother := by
    obtain ⟨found, hfound, rfl⟩ := List.mem_map.mp hother
    rcases Keyed.mem_put hfound with rfl | hfound
    · exact hkey
    · exact h.used_of_mem _ (List.mem_map.mpr ⟨found, hfound, rfl⟩)
  writable found hfound := by
    rcases Keyed.mem_put hfound with rfl | hfound
    · exact hentry
    · exact h.writable found hfound

/-- A call leaves such entries if the keys that it names are used. -/
theorem answer {store : MemoryStore} (h : Fits used store.entries) (now : Binary64)
    {request : StoreRequest} (hrequest : ∀ key ∈ request.keys, key ∈ used) :
    Fits used (store.answer now request).2.entries := by
  cases request with
  | get key =>
    change Fits used (store.get now key).2.entries
    unfold MemoryStore.get
    cases store.entries.find? key with
    | none => exact h
    | some entry =>
      by_cases hexpired : entry.isExpired now = true
      · simp only [if_pos hexpired]
        exact h.filter _
      · simpa only [if_neg hexpired] using h
  | set key text ttl =>
    cases hexpires : expiryOf now ttl with
    | error fault =>
      rw [MemoryStore.answer_set_of_error hexpires]
      exact h
    | ok expires =>
      rw [MemoryStore.answer_set_of_ok hexpires]
      exact h.put (hrequest key List.mem_cons_self) (isWritable_of_expiryOf hexpires text)
  | delete key => exact h.filter _
  | deletePrefix start => exact h.filter _

/-- The file of a used key is no other's. -/
theorem fileName_injective (h : Fits used entries) (hdiffer : StemsDiffer used) {key : String}
    (hkey : key ∈ used) : ∀ other ∈ entries.names, fileName other = fileName key → other = key :=
  fun other hother heq =>
    hdiffer other (h.used_of_mem other hother) key hkey (stem_eq_of_fileName_eq heq)

end Fits

/-- The files of some entries. -/
def files (entries : Keyed MemoryEntry) : Keyed FileNode :=
  Keyed.renamed fileName (fun key entry => .file (fileOf key entry)) entries

/-- Nothing is staged among the files of entries. -/
theorem find?_files_stagedName (entries : Keyed MemoryEntry) (stem : String) :
    (files entries).find? (FileTree.stagedName stem) = none := by
  rw [Keyed.find?, Option.map_eq_none_iff, List.find?_eq_none]
  intro file hfile
  obtain ⟨entry, -, rfl⟩ := List.mem_map.mp hfile
  simpa using fileName_ne_stagedName entry.1 stem

/-! ### Runs on a tree -/

section Runs

variable {directory path staged : Path} {tree made opened written after : FileTree}
variable {key start : String} {now : Binary64} {bytes : List UInt8}

theorem runOn_get_missing (hexists : tree.exists? (entryPath directory key) = .ok false) :
    (get directory now key).runOn tree = (.ok none, tree) := by
  simp only [FileDialogue.runOn, get, Dialogue.run, FileTree.answer_exists?, hexists]

theorem runOn_get_text {text : String} (hexists : tree.exists? (entryPath directory key) = .ok true)
    (hread : tree.read (entryPath directory key) = .ok bytes)
    (hreading : readEntry now bytes = .ok (.text text)) :
    (get directory now key).runOn tree = (.ok (some text), tree) := by
  simp only [FileDialogue.runOn, get, Dialogue.run, FileTree.answer_exists?, hexists,
    FileTree.answer_read, hread, hreading]

theorem runOn_get_expired (hexists : tree.exists? (entryPath directory key) = .ok true)
    (hread : tree.read (entryPath directory key) = .ok bytes)
    (hreading : readEntry now bytes = .ok .expired)
    (hdiscard : tree.discard (entryPath directory key) = .ok after) :
    (get directory now key).runOn tree = (.ok none, after) := by
  simp only [FileDialogue.runOn, get, Dialogue.run, FileTree.answer_exists?, hexists,
    FileTree.answer_read, hread, hreading, FileTree.answer_discard hdiscard]

theorem runOn_place {stem : String} (hmake : tree.makeDirectories directory = .ok made)
    (hstage : made.stage directory stem = .ok (staged, opened))
    (hwrite : opened.write staged bytes = .ok written)
    (hrename : written.rename staged path = .ok after) :
    (place directory path stem bytes).runOn tree = (.ok (), after) := by
  simp only [FileDialogue.runOn, place, Dialogue.run, FileTree.answer_makeDirectories hmake,
    FileTree.answer_stage hstage, FileTree.answer_write hwrite, FileTree.answer_rename hrename]

/-- A text is put when its lifetime can be added to the time and its file can be written. -/
theorem runOn_set {text : String} {ttl : Option Scalar} {expires : Option Number}
    (hexpires : expiryOf now ttl = .ok expires)
    (hplace : (place directory (entryPath directory key) (stem key)
      (entryBytes key text expires)).runOn tree = (.ok (), after)) :
    (set directory now key text ttl).runOn tree = (.ok (), after) := by
  rw [set, hexpires]
  refine (Dialogue.run_bind _ _ _ _).trans ?_
  rw [FileDialogue.runOn] at hplace
  rw [hplace]
  rfl

theorem runOn_delete (hdiscard : tree.discard (entryPath directory key) = .ok after) :
    (delete directory key).runOn tree = (.ok (), after) := by
  simp only [FileDialogue.runOn, delete, Dialogue.run, FileTree.answer_discard hdiscard]
  rfl

theorem runOn_sweep_spared {count : Nat} {rest : List Path} (hread : tree.read path = .ok bytes)
    (hdoomed : isDoomed start bytes = .ok false) :
    (sweep directory start count (path :: rest)).runOn tree =
      (sweep directory start count rest).runOn tree := by
  simp only [FileDialogue.runOn, sweep, Dialogue.run, FileTree.answer_read, hread, hdoomed]

theorem runOn_sweep_doomed {count : Nat} {rest : List Path} (hread : tree.read path = .ok bytes)
    (hdoomed : isDoomed start bytes = .ok true) (hdiscard : tree.discard path = .ok after) :
    (sweep directory start count (path :: rest)).runOn tree =
      (sweep directory start (count + 1) rest).runOn after := by
  simp only [FileDialogue.runOn, sweep, Dialogue.run, FileTree.answer_read, hread, hdoomed,
    FileTree.answer_discard hdiscard]

theorem runOn_deletePrefix_missing (hexists : tree.exists? directory = .ok false) :
    (deletePrefix directory start).runOn tree = (.ok 0, tree) := by
  simp only [FileDialogue.runOn, deletePrefix, Dialogue.run, FileTree.answer_exists?, hexists]

theorem runOn_deletePrefix (hexists : tree.exists? directory = .ok true) :
    (deletePrefix directory start).runOn tree =
      (sweep directory start 0 (((tree.list directory).filter fun name =>
        name.endsWith ".json").map directory.child)).runOn tree := by
  simp only [FileDialogue.runOn, deletePrefix, Dialogue.run, FileTree.answer_exists?, hexists,
    FileTree.answer_list]

end Runs

/-! ### A directory with a file for every entry -/

variable {used : List String} {directory : Path} {before tree : FileTree} {store : MemoryStore}
variable {key : String}

section Files

variable {entries : Keyed MemoryEntry}
variable (hdiffer : StemsDiffer used) (hfits : Fits used entries) (hkey : key ∈ used)
include hdiffer hfits hkey

/-- A file is found where there is an entry. -/
theorem find?_files :
    (files entries).find? (fileName key) =
      (entries.find? key).map fun entry => .file (fileOf key entry) :=
  Keyed.find?_renamed _ (hfits.fileName_injective hdiffer hkey)

/-- What stands under the name of a key's file is a file. -/
theorem find?_files_ne_directory : (files entries).find? (fileName key) ≠ some .directory := by
  rw [find?_files hdiffer hfits hkey]
  cases entries.find? key <;> simp

/-- The file of an entry that is put is put. -/
theorem files_put (entry : MemoryEntry) :
    files (entries.put key entry) = (files entries).put (fileName key) (.file (fileOf key entry)) :=
  Keyed.renamed_put _ (hfits.fileName_injective hdiffer hkey) entry

/-- What is left when a file is taken out are the files of the other entries. -/
theorem files_filter :
    files (entries.filter fun entry => entry.1 != key) =
      (files entries).filter fun entry => entry.1 != fileName key :=
  Keyed.renamed_filter _ (hfits.fileName_injective hdiffer hkey)

end Files

section Shows

variable (hdiffer : StemsDiffer used) (hfits : Fits used store.entries)
variable (hshows : tree.Shows directory (files store.entries)) (hkey : key ∈ used)
include hdiffer hfits hshows hkey

/-- Looking under a key finds what a store in memory finds, and removes what that forgets. -/
theorem get_of_shows (now : Binary64) :
    ∃ after, (get directory now key).runOn tree = (.ok (store.get now key).1, after) ∧
      after.Shows directory (files (store.get now key).2.entries) := by
  have hname := isFileName_fileName key
  have hfile := find?_files hdiffer hfits hkey
  have hexists := hshows.exists?_child hname
  unfold MemoryStore.get
  cases hentry : store.entries.find? key with
  | none =>
    rw [hfile, hentry] at hexists
    exact ⟨tree, runOn_get_missing hexists, hshows⟩
  | some entry =>
    rw [hfile, hentry] at hexists
    have hread := hshows.read_child hname (by rw [hfile, hentry]; rfl)
    have hreading := readEntry_fileOf
      (hfits.writable (key, entry) (Keyed.mem_of_find?_eq_some hentry)) now key
    by_cases hexpired : entry.isExpired now = true
    · obtain ⟨after, hdiscard, hafter⟩ :=
        hshows.discard_child hname (find?_files_ne_directory hdiffer hfits hkey)
      rw [if_pos hexpired] at hreading
      simp only [if_pos hexpired, MemoryStore.erase, files_filter hdiffer hfits hkey]
      exact ⟨after, runOn_get_expired hexists hread hreading hdiscard, hafter⟩
    · rw [if_neg hexpired] at hreading
      simp only [if_neg hexpired]
      exact ⟨tree, runOn_get_text hexists hread hreading, hshows⟩

/-- A text that is put gets a file, as it gets an entry in a store in memory. -/
theorem place_of_shows (hmake : before.makeDirectories directory = .ok tree) (entry : MemoryEntry) :
    ∃ after, (place directory (entryPath directory key) (stem key)
        (fileOf key entry)).runOn before = (.ok (), after) ∧
      after.Shows directory (files (store.entries.put key entry)) := by
  have hname := isFileName_fileName key
  have hstaged := isFileName_stagedName key
  have hfree := find?_files_stagedName store.entries (stem key)
  -- The file is created, written and renamed; under its first name nothing is left in the end.
  obtain ⟨opened, hstage, hopened⟩ := hshows.stage_child hstaged hfree
  obtain ⟨written, hwrite, hwritten⟩ :=
    hopened.write_child hstaged (by simp [Keyed.find?_put]) (fileOf key entry)
  have hfile : (((files store.entries).put (FileTree.stagedName (stem key)) (.file [])).put
      (FileTree.stagedName (stem key)) (.file (fileOf key entry))).find?
        (FileTree.stagedName (stem key)) = some (.file (fileOf key entry)) := by
    simp [Keyed.find?_put]
  have hother : FileTree.stagedName (stem key) ≠ fileName key :=
    (fileName_ne_stagedName key (stem key)).symm
  obtain ⟨after, hrename, hafter⟩ := hwritten.rename_child hstaged hname hfile (by
    rw [Keyed.find?_put, Keyed.find?_put, if_neg hother, if_neg hother]
    exact find?_files_ne_directory hdiffer hfits hkey)
  refine ⟨after, runOn_place hmake hstage hwrite hrename, ?_⟩
  rw [files_put hdiffer hfits hkey]
  rwa [Keyed.filter_put, Keyed.filter_put, Keyed.filter_of_find?_eq_none hfree] at hafter

/-- A key that is deleted has no file any more. -/
theorem delete_of_shows :
    ∃ after, (delete directory key).runOn tree = (.ok (), after) ∧
      after.Shows directory (files (store.erase key).entries) := by
  obtain ⟨after, hdiscard, hafter⟩ := hshows.discard_child (isFileName_fileName key)
    (find?_files_ne_directory hdiffer hfits hkey)
  exact ⟨after, runOn_delete hdiscard, files_filter hdiffer hfits hkey ▸ hafter⟩

end Shows

/-- Looking through the files of some entries counts those whose keys begin with a text, and leaves
the files of the others and of the entries that were looked at before. -/
theorem sweep_of_shows (hdiffer : StemsDiffer used) (start : String)
    {before rest : Keyed MemoryEntry} (hfits : Fits used (before ++ rest))
    (hshows : tree.Shows directory (files (before ++ rest))) (count : Nat) :
    ∃ after, (sweep directory start count ((files rest).names.map directory.child)).runOn tree =
        (.ok (count + rest.countP fun entry => entry.1.startsWith start), after) ∧
      after.Shows directory
        (files (before ++ rest.filter fun entry => !entry.1.startsWith start)) := by
  -- Entries that are spared move to those before, so that they stay in what the directory shows.
  induction rest generalizing before tree count with
  | nil => exact ⟨tree, rfl, hshows⟩
  | cons first rest ih =>
    obtain ⟨key, entry⟩ := first
    have hmem : (key, entry) ∈ before ++ (key, entry) :: rest := by simp
    have hkey : key ∈ used := hfits.used_of_mem key (List.mem_map.mpr ⟨_, hmem, rfl⟩)
    have hname := isFileName_fileName key
    have hfile : (files (before ++ (key, entry) :: rest)).find? (fileName key) =
        some (.file (fileOf key entry)) := by
      rw [find?_files hdiffer hfits hkey, Keyed.find?_eq_some_of_mem hfits.nodup hmem]
      rfl
    have hread := hshows.read_child hname hfile
    have hdoomed := isDoomed_fileOf (hfits.writable _ hmem) start key
    by_cases hstart : key.startsWith start = true
    · rw [hstart] at hdoomed
      obtain ⟨swept, hdiscard, hswept⟩ := hshows.discard_child hname (by simp [hfile])
      have hothers : ((before ++ (key, entry) :: rest).filter fun entry => entry.1 != key) =
          before ++ rest := Keyed.filter_append_cons hfits.nodup
      rw [← files_filter hdiffer hfits hkey, hothers] at hswept
      obtain ⟨after, hrun, hafter⟩ := ih (hothers ▸ hfits.filter _) hswept (count + 1)
      refine ⟨after, ?_, ?_⟩
      · refine (runOn_sweep_doomed hread hdoomed hdiscard).trans (hrun.trans ?_)
        rw [List.countP_cons_of_pos (by exact hstart), Nat.add_right_comm, Nat.add_assoc]
      · rwa [List.filter_cons_of_neg (by simp [hstart])]
    · rw [Bool.eq_false_iff.mpr hstart] at hdoomed
      have hmoved : before ++ (key, entry) :: rest = before ++ [(key, entry)] ++ rest := by simp
      rw [hmoved] at hfits hshows
      obtain ⟨after, hrun, hafter⟩ := ih hfits hshows count
      refine ⟨after, (runOn_sweep_spared hread hdoomed).trans (hrun.trans ?_), ?_⟩
      · rw [List.countP_cons_of_neg (by exact hstart)]
      · rw [List.filter_cons_of_pos (by simpa using hstart)]
        rwa [List.append_assoc] at hafter

/-! ### Runs of calls -/

/-- A directory can be made, and is empty then; it may be there already. -/
def IsVacant (directory : Path) (tree : FileTree) : Prop :=
  ∃ made, tree.makeDirectories directory = .ok made ∧ made.list directory = []

/-- A directory holds the files of the entries of a store in memory, and nothing else. As long as
nothing was put it need not be there. -/
inductive Mirrors (directory : Path) (store : MemoryStore) (tree : FileTree) : Prop where
  /-- The directory is there. -/
  | present (hshows : tree.Shows directory (files store.entries))
  /-- The directory is still to be made. -/
  | absent {made : FileTree} (hstore : store = .empty) (hlacks : tree.Lacks directory)
      (hmake : tree.makeDirectories directory = .ok made) (hshows : made.Shows directory [])

/-- A vacant directory holds the files of a store without entries. -/
theorem mirrors_empty (h : IsVacant directory tree) : Mirrors directory .empty tree := by
  obtain ⟨made, hmake, hlist⟩ := h
  obtain ⟨⟨things, hshows⟩, hbefore⟩ := FileTree.shows_of_makeDirectories hmake
  have hthings : things = [] := List.map_eq_nil_iff.mp (hshows.list_eq.symm.trans hlist)
  rw [hthings] at hshows
  rcases hbefore with rfl | hlacks
  · exact .present hshows
  · exact .absent rfl hlacks hmake hshows

namespace Mirrors

/-- Either way the directory can be made, and shows the files of the entries then. -/
theorem exists_made (h : Mirrors directory store tree) :
    ∃ made, tree.makeDirectories directory = .ok made ∧
      made.Shows directory (files store.entries) := by
  cases h with
  | present hshows => exact ⟨tree, hshows.makeDirectories_eq, hshows⟩
  | absent hstore hlacks hmake hshows => exact ⟨_, hmake, hstore ▸ hshows⟩

variable (h : Mirrors directory store tree)
variable (hdiffer : StemsDiffer used) (hfits : Fits used store.entries)
include h hdiffer hfits

theorem get (hkey : key ∈ used) (now : Binary64) :
    ∃ after, (FileStore.get directory now key).runOn tree = (.ok (store.get now key).1, after) ∧
      Mirrors directory (store.get now key).2 after := by
  cases h with
  | present hshows =>
    obtain ⟨after, hrun, hafter⟩ := get_of_shows hdiffer hfits hshows hkey now
    exact ⟨after, hrun, .present hafter⟩
  | absent hstore hlacks hmake hshows =>
    subst hstore
    exact ⟨tree, runOn_get_missing (hlacks.child (isFileName_fileName key)).exists?_eq,
      .absent rfl hlacks hmake hshows⟩

theorem set (hkey : key ∈ used) (now : Binary64) (text : String) (ttl : Option Scalar) :
    ∃ after, (FileStore.set directory now key text ttl).runOn tree =
        ((store.answer now (.set key text ttl)).1, after) ∧
      Mirrors directory (store.answer now (.set key text ttl)).2 after := by
  cases hexpires : expiryOf now ttl with
  | error fault =>
    rw [MemoryStore.answer_set_of_error hexpires, FileStore.set, hexpires]
    exact ⟨tree, rfl, h⟩
  | ok expires =>
    rw [MemoryStore.answer_set_of_ok hexpires]
    obtain ⟨made, hmake, hshows⟩ := h.exists_made
    obtain ⟨after, hrun, hafter⟩ :=
      place_of_shows hdiffer hfits hshows hkey hmake ⟨text, expires⟩
    exact ⟨after, runOn_set hexpires hrun, .present hafter⟩

theorem delete (hkey : key ∈ used) :
    ∃ after, (FileStore.delete directory key).runOn tree = (.ok (), after) ∧
      Mirrors directory (store.erase key) after := by
  cases h with
  | present hshows =>
    obtain ⟨after, hrun, hafter⟩ := delete_of_shows hdiffer hfits hshows hkey
    exact ⟨after, hrun, .present hafter⟩
  | absent hstore hlacks hmake hshows =>
    subst hstore
    exact ⟨tree, runOn_delete (hlacks.child (isFileName_fileName key)).discard_eq,
      .absent rfl hlacks hmake hshows⟩

theorem deletePrefix (start : String) :
    ∃ after, (FileStore.deletePrefix directory start).runOn tree =
        (.ok (store.countPrefix start), after) ∧
      Mirrors directory (store.erasePrefix start) after := by
  cases h with
  | present hshows =>
    have hnames : (files store.entries).names.filter (fun name => name.endsWith ".json") =
        (files store.entries).names := by
      refine List.filter_eq_self.mpr fun name hname => ?_
      obtain ⟨file, hfile, rfl⟩ := List.mem_map.mp hname
      obtain ⟨entry, -, rfl⟩ := List.mem_map.mp hfile
      exact endsWith_fileName entry.1
    obtain ⟨after, hrun, hafter⟩ := sweep_of_shows hdiffer start (List.nil_append _ ▸ hfits)
      (List.nil_append store.entries ▸ hshows) 0
    refine ⟨after, ?_, .present hafter⟩
    rw [runOn_deletePrefix hshows.exists?_eq, hshows.list_eq, hnames, hrun, Nat.zero_add]
    rfl
  | absent hstore hlacks hmake hshows =>
    subst hstore
    exact ⟨tree, runOn_deletePrefix_missing hlacks.exists?_eq, .absent rfl hlacks hmake hshows⟩

/-- Every call is answered as by the store in memory, and the directory holds the files of its
entries afterwards. -/
theorem answer (now : Binary64) {request : StoreRequest}
    (hkeys : ∀ key ∈ request.keys, key ∈ used) :
    ∃ after, (FileStore.answer directory now request).runOn tree =
        ((store.answer now request).1, after) ∧
      Mirrors directory (store.answer now request).2 after := by
  cases request with
  | get key => exact h.get hdiffer hfits (hkeys key List.mem_cons_self) now
  | set key text ttl => exact h.set hdiffer hfits (hkeys key List.mem_cons_self) now text ttl
  | delete key => exact h.delete hdiffer hfits (hkeys key List.mem_cons_self)
  | deletePrefix start => exact h.deletePrefix hdiffer hfits start

end Mirrors

/-- The calls of a store at some times are answered one after the other. -/
def answers {σ : Type} (answer : Binary64 → (request : StoreRequest) → σ → request.Answer × σ) :
    List (Binary64 × StoreRequest) → σ → List (Σ request : StoreRequest, request.Answer)
  | [], _ => []
  | (now, request) :: rest, state =>
    ⟨request, (answer now request state).1⟩ :: answers answer rest (answer now request state).2

/-- A directory that holds the files of a store's entries goes on as the store does. -/
theorem Mirrors.answers {calls : List (Binary64 × StoreRequest)} (h : Mirrors directory store tree)
    (hdiffer : StemsDiffer used) (hfits : Fits used store.entries)
    (hkeys : ∀ call ∈ calls, ∀ key ∈ call.2.keys, key ∈ used) :
    FileStore.answers (fun now request => (FileStore.answer directory now request).runOn) calls
        tree = FileStore.answers MemoryStore.answer calls store := by
  induction calls generalizing store tree with
  | nil => rfl
  | cons call rest ih =>
    obtain ⟨now, request⟩ := call
    rw [List.forall_mem_cons] at hkeys
    obtain ⟨after, hrun, hafter⟩ := h.answer hdiffer hfits now hkeys.1
    rw [FileStore.answers, FileStore.answers, hrun, ih hafter (hfits.answer now hkeys.1) hkeys.2]

/-- The keys that some calls name. -/
def keysOf (calls : List (Binary64 × StoreRequest)) : List String :=
  calls.flatMap fun call => call.2.keys

/-- A store in files that begins with a vacant directory answers every run of calls as a new store
in memory does, as long as no two of the keys have the same digest. -/
theorem answers_eq_inMemory {calls : List (Binary64 × StoreRequest)}
    (hvacant : IsVacant directory tree) (hdiffer : StemsDiffer (keysOf calls)) :
    answers (fun now request => (answer directory now request).runOn) calls tree =
      answers MemoryStore.answer calls .empty :=
  (mirrors_empty hvacant).answers hdiffer (.nil _) fun call hcall _ hkey =>
    List.mem_flatMap.mpr ⟨call, hcall, hkey⟩

/-- Two keys in a directory that is not there yet. The one that has expired is counted among the
keys that are forgotten as long as nothing has asked for it. -/
theorem answers_eq_inMemory_counted :
    let directory := Path.ofText "build/cache"
    let calls : List (Binary64 × StoreRequest) :=
      [(.ofInt 100, .get "site:a"), (.ofInt 100, .set "site:a" "old" (some (.num (.int 10)))),
        (.ofInt 100, .set "site:b" "\"new\"" none), (.ofInt 109, .get "site:a"),
        (.ofInt 200, .deletePrefix "site:"), (.ofInt 50, .get "site:b")]
    IsVacant directory .empty ∧ StemsDiffer (keysOf calls) ∧
      answers (fun now request => (answer directory now request).runOn) calls .empty =
        [⟨.get "site:a", .ok none⟩, ⟨.set "site:a" "old" (some (.num (.int 10))), .ok ()⟩,
          ⟨.set "site:b" "\"new\"" none, .ok ()⟩, ⟨.get "site:a", .ok (some "old")⟩,
          ⟨.deletePrefix "site:", .ok (2 : Nat)⟩, ⟨.get "site:b", .ok none⟩] := by
  intro directory calls
  have hvacant : IsVacant directory .empty :=
    ⟨⟨[(["build"], .directory), (["build", "cache"], .directory)], []⟩, by decide +kernel,
      by decide +kernel⟩
  have hdiffer : StemsDiffer (keysOf calls) := by decide +kernel
  refine ⟨hvacant, hdiffer, (answers_eq_inMemory hvacant hdiffer).trans ?_⟩
  decide +kernel

end FileStore

end StyleTokens
