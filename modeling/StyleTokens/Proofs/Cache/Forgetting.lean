import StyleTokens.Proofs.Cache.FileStore

/-!
# Forgetting keys in any directory

A directory may hold anything, whoever wrote it. What is answered under a key is told from what
stands at the path of the key's file, and from nothing else. When keys are forgotten, the files that
go are told by the keys that they name themselves, so a file may stay that names another key than
the one it is found under, or none.
-/

namespace StyleTokens

namespace FileTree

variable {tree : FileTree} {path other : Path} {place : List String} {bytes : List UInt8}

theorem read_eq_ok_iff : tree.read path = .ok bytes ↔ tree.find path = .ok (.file bytes) := by
  rw [read, about_eq_ok_iff, bind_eq_ok_iff]
  constructor
  · rintro ⟨node, hfind, hnode⟩
    cases node with
    | file found =>
      cases hnode
      exact hfind
    | directory => cases hnode
  · exact fun hfind => ⟨_, hfind, rfl⟩

/-- A file that is found can be discarded, and what is left is the tree without it. -/
theorem discard_of_locate (hlocate : tree.locate path = .ok place)
    (hnode : tree.node? place = some (.file bytes)) :
    tree.discard path = .ok (tree.drop place) := by
  have hremove : tree.remove path = .ok (tree.drop place) := by
    rw [remove, about_eq_ok_iff, hlocate, ok_bind, hnode]
  rw [discard, hremove]

/-- Where nothing stands nothing is found. -/
theorem find_eq_missing (hlocate : tree.locate path = .ok place) (hnode : tree.node? place = none) :
    tree.find path = .error .missing := by
  rw [find, hlocate, ok_bind, hnode]

/-- What stands in another place stays when a file is dropped. -/
theorem node?_drop_of_ne {names : List String} (h : names ≠ place) :
    (tree.drop place).node? names = tree.node? names := by
  unfold node? drop
  dsimp only
  rw [lookup_filter _ h]

/-- Where a file was dropped there is nothing. -/
theorem node?_drop_self (hnode : tree.node? place = some (.file bytes)) :
    (tree.drop place).node? place = none := by
  have hne : ¬place.isEmpty = true := by
    intro hroot
    rw [node?, if_pos hroot] at hnode
    cases hnode
  rw [node?, if_neg hne, drop]
  refine List.lookup_eq_none_iff.mpr fun entry hentry => ?_
  have hother : (entry.1 != place) = true := (List.mem_filter.mp hentry).2
  rw [bne_iff_ne] at hother
  simpa using hother.symm

end FileTree

namespace FileStore

variable {directory : Path} {tree after : FileTree} {start key : String} {now : Binary64}

/-! ### What is answered under a key -/

/-- The text of an entry that is good. -/
def Reading.text? : Reading → Option String
  | .text found => some found
  | .expired => none
  | .corrupt => none

/-- What is answered under a key, by what stands at the path of its file. -/
def answerOf (directory : Path) (now : Binary64) (key : String) :
    Except FileProblem FileNode → Except Fault (Option String)
  | .ok (.file bytes) => (readEntry now bytes).map Reading.text?
  | .ok .directory =>
    let path := entryPath directory key
    .error (unavailable ("Cannot read cache file " ++ path.text) ⟨.isDirectory, [path.text]⟩)
  | .error .nameTooLong => .error (.file ⟨.nameTooLong, [(entryPath directory key).text]⟩)
  | .error _ => .ok none

/-- What is answered under a key is told from what stands at the path of its file. -/
theorem runOn_get_fst (directory : Path) (tree : FileTree) (now : Binary64) (key : String) :
    ((get directory now key).runOn tree).1 =
      answerOf directory now key (tree.find (entryPath directory key)) := by
  cases hfind : tree.find (entryPath directory key) with
  | error problem =>
    cases problem <;>
      simp [FileDialogue.runOn, get, Dialogue.run, FileTree.answer_exists?, FileTree.exists?,
        hfind, answerOf]
  | ok node =>
    have hexists := FileTree.exists?_of_find hfind
    cases node with
    | directory =>
      have hread : tree.read (entryPath directory key) =
          .error ⟨.isDirectory, [(entryPath directory key).text]⟩ := by
        rw [FileTree.read, hfind]
        rfl
      simp only [FileDialogue.runOn, get, Dialogue.run, FileTree.answer_exists?, hexists,
        FileTree.answer_read, hread, answerOf]
    | file bytes =>
      have hread := FileTree.read_eq_ok_iff.mpr hfind
      obtain ⟨place, hlocate, hnode⟩ := FileTree.find_eq_ok_iff.mp hfind
      change _ = (readEntry now bytes).map Reading.text?
      cases hreading : readEntry now bytes with
      | error fault =>
        simp [FileDialogue.runOn, get, Dialogue.run, FileTree.answer_exists?, hexists,
          FileTree.answer_read, hread, hreading, Except.map]
      | ok reading =>
        cases reading with
        | text found =>
          rw [runOn_get_text hexists hread hreading]
          rfl
        | expired =>
          rw [runOn_get_expired hexists hread hreading (FileTree.discard_of_locate hlocate hnode)]
          rfl
        | corrupt =>
          simp [FileDialogue.runOn, get, Dialogue.run, FileTree.answer_exists?, hexists,
            FileTree.answer_read, hread, hreading, Except.map, Reading.text?]

/-! ### Which files stay -/

/-- A file stays when the keys that begin with a text are forgotten: it says that it is of a key
that does not, or names no key at all. -/
def IsSpared (start : String) (bytes : List UInt8) : Prop :=
  ∃ entries : Value.Entries, documentOf? bytes = .ok (some (.map entries)) ∧
    (entries.get? "key" = none ∧ start ≠ "" ∨
      ∃ other, entries.get? "key" = some (.str other) ∧ other.startsWith start = false)

/-- The files that stay are those that are no entries to be forgotten. -/
theorem isDoomed_eq_false_iff {bytes : List UInt8} :
    isDoomed start bytes = .ok false ↔ IsSpared start bytes := by
  unfold isDoomed IsSpared
  cases hdocument : documentOf? bytes with
  | error fault => simp [error_bind]
  | ok document? =>
    rw [ok_bind]
    cases document? with
    | none => simp [pure, Except.pure]
    | some document =>
      cases document with
      | scalar s => simp [pure, Except.pure]
      | list items => simp [pure, Except.pure]
      | map entries =>
        cases hkey : Value.Entries.get? entries "key" with
        | none => simp [hkey, pure, Except.pure]
        | some key =>
          cases htext : key.text? with
          | none =>
            have hne (other : String) : key ≠ .str other := by
              rintro rfl
              cases htext
            simp [hkey, htext, hne, pure, Except.pure]
          | some other =>
            obtain rfl := Value.text?_eq_some_iff.mp htext
            simp [hkey, Value.text?, pure, Except.pure]

/-- A file that stays can be read. -/
theorem IsSpared.exists_reading {bytes : List UInt8} (h : IsSpared start bytes) (now : Binary64) :
    ∃ reading, readEntry now bytes = .ok reading := by
  obtain ⟨entries, hdocument, -⟩ := h
  unfold readEntry
  rw [hdocument, ok_bind]
  dsimp only
  split
  · exact ⟨_, rfl⟩
  · split <;> exact ⟨_, rfl⟩
  · exact ⟨_, rfl⟩

/-! ### What is left of a directory -/

/-- When files are looked through, each has been read, and the doomed ones are gone. -/
theorem runOn_sweep_cons {path : Path} {rest : List Path} {count total : Nat}
    (h : (sweep directory start count (path :: rest)).runOn tree = (.ok total, after)) :
    ∃ place bytes, tree.locate path = .ok place ∧ tree.node? place = some (.file bytes) ∧
      ((isDoomed start bytes = .ok false ∧
          (sweep directory start count rest).runOn tree = (.ok total, after)) ∨
        (isDoomed start bytes = .ok true ∧
          (sweep directory start (count + 1) rest).runOn (tree.drop place) =
            (.ok total, after))) := by
  cases hread : tree.read path with
  | error fault =>
    simp [FileDialogue.runOn, sweep, Dialogue.run, FileTree.answer_read, hread] at h
  | ok bytes =>
    obtain ⟨place, hlocate, hnode⟩ :=
      FileTree.find_eq_ok_iff.mp (FileTree.read_eq_ok_iff.mp hread)
    refine ⟨place, bytes, hlocate, hnode, ?_⟩
    cases hdoomed : isDoomed start bytes with
    | error fault =>
      simp [FileDialogue.runOn, sweep, Dialogue.run, FileTree.answer_read, hread, hdoomed] at h
    | ok doomed =>
      cases doomed with
      | false =>
        rw [runOn_sweep_spared hread hdoomed] at h
        exact .inl ⟨rfl, h⟩
      | true =>
        rw [runOn_sweep_doomed hread hdoomed (FileTree.discard_of_locate hlocate hnode)] at h
        exact .inr ⟨rfl, h⟩

/-- What looking through the files at some paths leaves of a tree. -/
structure Swept (start : String) (paths : List Path) (tree after : FileTree) : Prop where
  /-- No directory goes away. -/
  keepsDirectories : tree.KeepsDirectories after
  /-- What is no doomed file stays. -/
  kept : ∀ names, (∀ bytes, tree.node? names = some (.file bytes) →
    isDoomed start bytes ≠ .ok true) → after.node? names = tree.node? names
  /-- What stands at one of the paths is a file, and is gone if it is doomed. -/
  judged : ∀ path ∈ paths, ∀ names node, tree.locate path = .ok names →
    tree.node? names = some node → ∃ bytes, node = .file bytes ∧
      (isDoomed start bytes = .ok false ∨
        isDoomed start bytes = .ok true ∧ after.node? names = none)

namespace Swept

variable {path : Path} {rest : List Path} {place : List String} {bytes : List UInt8}
variable (hlocate : tree.locate path = .ok place) (hnode : tree.node? place = some (.file bytes))
include hlocate hnode

/-- A file that stays makes no difference. -/
theorem cons_spared (h : Swept start rest tree after) (hdoomed : isDoomed start bytes = .ok false) :
    Swept start (path :: rest) tree after where
  keepsDirectories := h.keepsDirectories
  kept := h.kept
  judged other hother names node hother' hnames := by
    rcases List.mem_cons.mp hother with rfl | hrest
    · obtain rfl : place = names := Except.ok.inj (hlocate.symm.trans hother')
      obtain rfl : .file bytes = node := Option.some.inj (hnode.symm.trans hnames)
      exact ⟨bytes, rfl, .inl hdoomed⟩
    · exact h.judged other hrest names node hother' hnames

/-- A file that goes is gone for the rest. -/
theorem cons_doomed (h : Swept start rest (tree.drop place) after)
    (hdoomed : isDoomed start bytes = .ok true) : Swept start (path :: rest) tree after := by
  have hkeeps : tree.KeepsDirectories (tree.drop place) :=
    FileTree.keepsDirectories_drop (by simp [hnode])
  have hgone : after.node? place = none := by
    have hdropped := FileTree.node?_drop_self hnode
    rw [h.kept place (by simp [hdropped]), hdropped]
  refine ⟨hkeeps.trans h.keepsDirectories, fun names hspared => ?_,
    fun other hother names node hother' hnames => ?_⟩
  · have hne : names ≠ place := by
      rintro rfl
      exact hspared bytes hnode hdoomed
    have hsame : (tree.drop place).node? names = tree.node? names := FileTree.node?_drop_of_ne hne
    rw [← hsame] at hspared
    exact (h.kept names hspared).trans hsame
  · by_cases hplace : names = place
    · subst hplace
      obtain rfl : .file bytes = node := Option.some.inj (hnode.symm.trans hnames)
      exact ⟨bytes, rfl, .inr ⟨hdoomed, hgone⟩⟩
    · rcases List.mem_cons.mp hother with rfl | hrest
      · exact absurd (Except.ok.inj (hother'.symm.trans hlocate)) hplace
      · refine h.judged other hrest names node (hkeeps.locate hother') ?_
        rw [FileTree.node?_drop_of_ne hplace, hnames]

end Swept

/-- Looking through some files to the end leaves what it should. -/
theorem swept_of_runOn {paths : List Path} {count total : Nat}
    (h : (sweep directory start count paths).runOn tree = (.ok total, after)) :
    Swept start paths tree after := by
  induction paths generalizing tree count with
  | nil =>
    obtain rfl : tree = after := (Prod.mk.inj h).2
    exact ⟨.rfl, fun _ _ => rfl, fun _ hpath => nomatch hpath⟩
  | cons path rest ih =>
    obtain ⟨place, bytes, hlocate, hnode, ⟨hdoomed, hrest⟩ | ⟨hdoomed, hrest⟩⟩ :=
      runOn_sweep_cons h
    · exact (ih hrest).cons_spared hlocate hnode hdoomed
    · exact (ih hrest).cons_doomed hlocate hnode hdoomed

/-- The files that are looked through when keys are forgotten. -/
def candidates (directory : Path) (tree : FileTree) : List Path :=
  ((tree.list directory).filter fun name => name.endsWith ".json").map directory.child

/-- The file of a key is one of them. -/
theorem entryPath_mem_candidates {place : List String} {node : FileNode}
    (hlocate : tree.locate directory = .ok place) (hdirectory : tree.node? place = some .directory)
    (hnode : tree.node? (place ++ [fileName key]) = some node) :
    entryPath directory key ∈ candidates directory tree := by
  have hshows : tree.Shows directory (FileTree.childrenIn place tree.nodes) :=
    ⟨place, hlocate, hdirectory, rfl⟩
  rw [FileTree.node?_concat] at hnode
  have hmem : fileName key ∈ tree.list directory := by
    rw [hshows.list_eq]
    exact List.mem_map.mpr ⟨_, Keyed.mem_of_find?_eq_some hnode, rfl⟩
  exact List.mem_map.mpr ⟨_, List.mem_filter.mpr ⟨hmem, endsWith_fileName key⟩, rfl⟩

/-- Where a file stands in the place of the directory nothing is forgotten. -/
theorem runOn_deletePrefix_of_file {bytes : List UInt8}
    (hfile : tree.find directory = .ok (.file bytes)) :
    (deletePrefix directory start).runOn tree = (.ok 0, tree) := by
  obtain ⟨place, hlocate, hnode⟩ := FileTree.find_eq_ok_iff.mp hfile
  have hlist : tree.list directory = [] := by
    rw [FileTree.list, hlocate]
    simp [hnode]
  rw [runOn_deletePrefix (FileTree.exists?_of_find hfile), hlist]
  rfl

section Removal

variable {count : Nat} (h : (deletePrefix directory start).runOn tree = (.ok count, after))
include h

/-- Keys are forgotten without a failure only where a directory can be looked for. -/
theorem exists?_of_deletePrefix : ∃ there, tree.exists? directory = .ok there := by
  cases hexists : tree.exists? directory with
  | error fault =>
    simp [FileDialogue.runOn, deletePrefix, Dialogue.run, FileTree.answer_exists?, hexists] at h
  | ok there => exact ⟨there, rfl⟩

/-- In a directory that is there its files are looked through. -/
theorem swept_of_deletePrefix (hfind : tree.find directory = .ok .directory) :
    Swept start (candidates directory tree) tree after := by
  rw [runOn_deletePrefix (FileTree.exists?_of_find hfind)] at h
  exact swept_of_runOn h

/-- Where there is no directory nothing is done, and there is no file of any key. -/
theorem deletePrefix_of_no_directory (hfind : tree.find directory ≠ .ok .directory) (key : String) :
    after = tree ∧ ∃ problem, tree.find (entryPath directory key) = .error problem ∧
      problem ≠ .nameTooLong := by
  have hname := isFileName_fileName key
  obtain ⟨there, hexists⟩ := exists?_of_deletePrefix h
  cases hdirectory : tree.find directory with
  | error problem =>
    have hproblem : problem ≠ .nameTooLong := by
      rintro rfl
      simp [FileTree.exists?, hdirectory] at hexists
    have hmissing : tree.exists? directory = .ok false := by
      cases problem <;> first | rfl | simp_all [FileTree.exists?]
    rw [runOn_deletePrefix_missing hmissing] at h
    exact ⟨(Prod.mk.inj h).2.symm, problem, FileTree.find_child_of_error hdirectory hname,
      hproblem⟩
  | ok node =>
    cases node with
    | directory => exact absurd hdirectory hfind
    | file bytes =>
      rw [runOn_deletePrefix_of_file hdirectory] at h
      exact ⟨(Prod.mk.inj h).2.symm, _, FileTree.find_child_of_file hdirectory hname, by decide⟩

/-- The file of a key stays as it is, or it is doomed and gone. What stands there must be a file, and
one of which this can be told. -/
theorem file_after_deletePrefix (hfind : tree.find directory = .ok .directory) (key : String) :
    (∃ problem, tree.find (entryPath directory key) = .error problem ∧
        after.find (entryPath directory key) = .error .missing) ∨
      ∃ bytes, tree.find (entryPath directory key) = .ok (.file bytes) ∧
        (IsSpared start bytes ∧ after.find (entryPath directory key) = .ok (.file bytes) ∨
          ¬IsSpared start bytes ∧ after.find (entryPath directory key) = .error .missing) := by
  obtain ⟨place, hlocate, hdirectory⟩ := FileTree.find_eq_ok_iff.mp hfind
  have hentry : tree.locate (entryPath directory key) = .ok (place ++ [fileName key]) :=
    FileTree.locate_child_of_directory hlocate hdirectory (isFileName_fileName key)
  have hswept := swept_of_deletePrefix h hfind
  have hentry' := hswept.keepsDirectories.locate hentry
  cases hnode : tree.node? (place ++ [fileName key]) with
  | none =>
    have hnode' := hswept.kept (place ++ [fileName key]) (by simp [hnode])
    refine .inl ⟨.missing, FileTree.find_eq_missing hentry hnode, ?_⟩
    exact FileTree.find_eq_missing hentry' (hnode'.trans hnode)
  | some node =>
    obtain ⟨bytes, rfl, hjudged⟩ :=
      hswept.judged _ (entryPath_mem_candidates hlocate hdirectory hnode) _ _ hentry hnode
    refine .inr ⟨bytes, FileTree.find_eq_ok_iff.mpr ⟨_, hentry, hnode⟩, ?_⟩
    rcases hjudged with hspared | ⟨hdoomed, hgone⟩
    · have hnode' : after.node? (place ++ [fileName key]) = some (.file bytes) := by
        rw [hswept.kept, hnode]
        intro other hother
        rw [hnode] at hother
        cases hother
        simp [hspared]
      refine .inl ⟨isDoomed_eq_false_iff.mp hspared, ?_⟩
      exact FileTree.find_eq_ok_iff.mpr ⟨_, hentry', hnode'⟩
    · refine .inr ⟨fun hspared => ?_, FileTree.find_eq_missing hentry' hgone⟩
      rw [isDoomed_eq_false_iff.mpr hspared] at hdoomed
      cases hdoomed

end Removal

/-- Nothing is answered under a key whose file is missing. -/
theorem answerOf_eq_none_of_error {problem : FileProblem} (h : problem ≠ .nameTooLong) :
    answerOf directory now key (.error problem) = .ok none := by
  cases problem <;> first | rfl | exact absurd rfl h

/-- Nothing is answered under the key of a file that can be read exactly if it gives no text. -/
theorem answerOf_eq_none_iff {bytes : List UInt8} {reading : Reading}
    (h : readEntry now bytes = .ok reading) :
    answerOf directory now key (.ok (.file bytes)) = .ok none ↔
      ¬∃ text, readEntry now bytes = .ok (.text text) := by
  rw [answerOf, h]
  cases reading <;> simp [Except.map, Reading.text?]

/-- After the keys that begin with a text have been forgotten, nothing is answered under a key
exactly if its file was not giving a text, or is none of those that stay. -/
theorem get_after_deletePrefix_iff {count : Nat}
    (h : (deletePrefix directory start).runOn tree = (.ok count, after)) (now : Binary64)
    (key : String) :
    ((get directory now key).runOn after).1 = .ok none ↔
      ¬∃ bytes text, tree.find (entryPath directory key) = .ok (.file bytes) ∧
        readEntry now bytes = .ok (.text text) ∧ IsSpared start bytes := by
  rw [runOn_get_fst]
  by_cases hfind : tree.find directory = .ok .directory
  · obtain ⟨problem, hbefore, hafter⟩ | ⟨bytes, hbefore, ⟨hspared, hafter⟩ | ⟨hspared, hafter⟩⟩ :=
      file_after_deletePrefix h hfind key
    · simp [hbefore, hafter, answerOf]
    · obtain ⟨reading, hreading⟩ := hspared.exists_reading now
      rw [hbefore, hafter, answerOf_eq_none_iff hreading, not_iff_not]
      constructor
      · rintro ⟨text, htext⟩
        exact ⟨bytes, text, rfl, htext, hspared⟩
      · rintro ⟨found, text, hfound, htext, -⟩
        cases hfound
        exact ⟨text, htext⟩
    · rw [hbefore, hafter]
      refine iff_of_true (answerOf_eq_none_of_error (by decide)) ?_
      rintro ⟨found, text, hfound, -, hfound'⟩
      cases hfound
      exact hspared hfound'
  · obtain ⟨rfl, problem, hproblem, hname⟩ := deletePrefix_of_no_directory h hfind key
    rw [hproblem]
    exact iff_of_true (answerOf_eq_none_of_error hname) (by simp)

/-- The file of an entry without its key. -/
def nameless : List UInt8 :=
  Text.encodeUtf8 (Json.render .ascii7 (.ofFields [("value", .str "old")]))

/-- A directory with the file of a key that does not name it, and maybe with files of other keys. -/
def halfNamed (keys : List String) : FileTree :=
  ⟨(["cache"], .directory) :: (["cache", fileName "ns:css:a"], .file nameless) ::
    keys.map fun key => (["cache", fileName key], .file (entryBytes key "old" none)), []⟩

theorem locate_halfNamed (keys : List String) :
    (halfNamed keys).locate (Path.ofText "cache") = .ok ["cache"] := by
  unfold halfNamed
  generalize fileName "ns:css:a" = name
  rfl

theorem shows_halfNamed (keys : List String) :
    (halfNamed keys).Shows (Path.ofText "cache")
      ((fileName "ns:css:a", .file nameless) ::
        keys.map fun key => (fileName key, .file (entryBytes key "old" none))) := by
  refine ⟨["cache"], locate_halfNamed keys, rfl, ?_⟩
  simp [halfNamed, FileTree.childrenIn, FileTree.nameIn?, List.filterMap_map]

theorem fileName_css_ne : fileName "ns:css:a" ≠ fileName "ns:css:b" := by
  have hblocks : ∀ key ∈ ["ns:css:a", "ns:css:b"], (Sha256.wordsOf (Sha256.padded
      (key.toList.flatMap String.utf8EncodeChar))).length = 16 * 1 := by
    decide +kernel
  have ha := Sha256.ofText_ofList (hblocks "ns:css:a" (by decide))
  have hb := Sha256.ofText_ofList (hblocks "ns:css:b" (by decide))
  rw [String.ofList_toList] at ha hb
  intro hsame
  have hstem := stem_eq_of_fileName_eq hsame
  rw [stem, stem, ha, hb] at hstem
  exact absurd (String.ofList_injective hstem) (by decide +kernel)

theorem find_nameless (keys : List String) :
    (halfNamed keys).find (entryPath (Path.ofText "cache") "ns:css:a") = .ok (.file nameless) := by
  refine ((shows_halfNamed keys).find_child (isFileName_fileName "ns:css:a")).trans ?_
  simp [Keyed.find?_cons]

theorem isSpared_nameless : IsSpared "ns:css:" nameless :=
  isDoomed_eq_false_iff.mp (by decide +kernel)

theorem isDoomed_named : isDoomed "ns:css:" (entryBytes "ns:css:b" "old" none) = .ok true := by
  decide +kernel

theorem locate_named : (halfNamed ["ns:css:b"]).locate
    (entryPath (Path.ofText "cache") "ns:css:b") = .ok ["cache", fileName "ns:css:b"] :=
  FileTree.locate_child_of_directory (locate_halfNamed _) rfl (isFileName_fileName "ns:css:b")

theorem node?_named : (halfNamed ["ns:css:b"]).node? ["cache", fileName "ns:css:b"] =
    some (.file (entryBytes "ns:css:b" "old" none)) := by
  simp [halfNamed, FileTree.node?, FileTree.lookup_cons, fileName_css_ne]

theorem find_named : (halfNamed ["ns:css:b"]).find (entryPath (Path.ofText "cache") "ns:css:b") =
    .ok (.file (entryBytes "ns:css:b" "old" none)) :=
  FileTree.find_eq_ok_iff.mpr ⟨_, locate_named, node?_named⟩

theorem drop_named :
    (halfNamed ["ns:css:b"]).drop ["cache", fileName "ns:css:b"] = halfNamed [] := by
  simp [halfNamed, FileTree.drop, fileName_css_ne]

/-- Of two keys that are forgotten, the one whose file does not name it stays. -/
theorem deletePrefix_halfNamed :
    (deletePrefix (Path.ofText "cache") "ns:css:").runOn (halfNamed ["ns:css:b"]) =
      (.ok 1, halfNamed []) := by
  have hshows := shows_halfNamed ["ns:css:b"]
  have hnames : ((halfNamed ["ns:css:b"]).list (Path.ofText "cache")).filter
      (fun name => name.endsWith ".json") = [fileName "ns:css:a", fileName "ns:css:b"] := by
    rw [hshows.list_eq]
    simp [Keyed.names, endsWith_fileName]
  rw [runOn_deletePrefix hshows.exists?_eq, hnames]
  refine (runOn_sweep_spared (FileTree.read_of_find (find_nameless _))
    (isDoomed_eq_false_iff.mpr isSpared_nameless)).trans ?_
  refine (runOn_sweep_doomed (FileTree.read_of_find find_named) isDoomed_named
    (FileTree.discard_of_locate locate_named node?_named)).trans ?_
  rw [drop_named]
  rfl

/-- Of two keys that are forgotten, the one whose file does not name it still has its text. -/
theorem get_after_deletePrefix_iff_halfNamed :
    ((get (Path.ofText "cache") (.ofInt 0) "ns:css:a").runOn (halfNamed [])).1 ≠ .ok none ∧
      ((get (Path.ofText "cache") (.ofInt 0) "ns:css:b").runOn (halfNamed [])).1 = .ok none := by
  constructor
  · intro hnone
    refine (get_after_deletePrefix_iff deletePrefix_halfNamed (.ofInt 0) "ns:css:a").mp hnone ?_
    exact ⟨nameless, "old", find_nameless _, by decide +kernel, isSpared_nameless⟩
  · refine (get_after_deletePrefix_iff deletePrefix_halfNamed (.ofInt 0) "ns:css:b").mpr ?_
    rintro ⟨bytes, text, hfound, -, hspared⟩
    rw [find_named] at hfound
    cases hfound
    have hdoomed := isDoomed_named
    rw [isDoomed_eq_false_iff.mpr hspared] at hdoomed
    cases hdoomed

/-- Keys can be forgotten and yet be answered for afterwards. -/
theorem not_forgotten : ¬∀ (directory : Path) (tree : FileTree) (start : String), start ≠ "" →
    ∀ count after, (deletePrefix directory start).runOn tree = (.ok count, after) →
      ∀ now key, key.startsWith start = true →
        ((get directory now key).runOn after).1 = .ok none := by
  intro hforgotten
  have hnone := hforgotten _ _ _ (by decide) 1 _ deletePrefix_halfNamed (.ofInt 0) "ns:css:a"
    (by decide +kernel)
  rw [runOn_get_fst, find_nameless] at hnone
  revert hnone
  decide +kernel

end FileStore

end StyleTokens
