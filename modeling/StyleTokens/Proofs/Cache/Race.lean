import Mathlib.Logic.Relation
import StyleTokens.Proofs.Cache.Forgetting
import StyleTokens.Proofs.Files.Failing

/-!
# Writers and what they leave

Any number of writers put texts in the files of one directory. They take turns, one request at a
time and in any order, and whatever they ask for may fail but the removal of a staged file. How far
each of them has come tells what stands in the directory: what one has staged is a file of its own,
and everything else is what has been put in its place last, or was there before.
-/

namespace StyleTokens.FileStore

open FileTree (Meets markedName)

/-- A text that is to be put under a key at a time. -/
structure Job where
  /-- When the writer begins. -/
  now : Binary64
  /-- The key. -/
  key : String
  /-- The text. -/
  text : String
  /-- For how long. -/
  ttl : Option Scalar

/-- The entry that is to be put; it does not expire if there is no telling when it does. -/
def Job.entry (job : Job) : MemoryEntry :=
  ⟨job.text, match expiryOf job.now job.ttl with
    | .ok expires => expires
    | .error _ => none⟩

/-- The file that is to be put. -/
def Job.file (job : Job) : List UInt8 := fileOf job.key job.entry

/-- Everything but the removal of a file may fail. -/
def MayFail : FileRequest → Prop
  | .discard _ => False
  | _ => True

/-- Whether a file has taken its place. -/
def places : (request : FileRequest) → request.Answer → Bool
  | .rename _ _, .ok () => true
  | _, _ => false

/-- Writers at work. -/
structure Race (ι : Type) where
  /-- The files. -/
  tree : FileTree
  /-- What every writer still does. -/
  rest : ι → FileDialogue (Except Fault Unit)
  /-- The writers that have put their files in their places, in this order. -/
  placed : List ι

variable {ι : Type} {jobs : ι → Job} {i : ι}

namespace Race

/-- Writers that are about to begin. -/
def start (directory : Path) (tree : FileTree) (jobs : ι → Job) : Race ι :=
  ⟨tree, fun i => set directory (jobs i).now (jobs i).key (jobs i).text (jobs i).ttl, []⟩

/-- A writer's next request is met. -/
inductive Turn [DecidableEq ι] (i : ι) (race : Race ι) : Race ι → Prop where
  /-- The writer goes on with the reply. -/
  | met {request : FileRequest} {next : request.Answer → FileDialogue (Except Fault Unit)}
    {reply : request.Answer} {tree : FileTree} (hrest : race.rest i = .ask request next)
    (hmeets : Meets MayFail request race.tree reply tree) :
    Turn i race ⟨tree, Function.update race.rest i (next reply),
      if places request reply then race.placed ++ [i] else race.placed⟩

/-- What comes of turns in any order. -/
def Reaches [DecidableEq ι] (race after : Race ι) : Prop :=
  Relation.ReflTransGen (fun race after => ∃ i, Turn i race after) race after

/-- The last writer that has put a file in the place of a name. -/
def lastIn? (jobs : ι → Job) (placed : List ι) (name : String) : Option ι :=
  placed.reverse.find? fun i => fileName (jobs i).key == name

end Race

/-! ### The course of a writer -/

section Course

variable (directory : Path) (job : Job)

/-- What a writer comes to. -/
def ended (outcome : Except FileFault Unit) : Except Fault Unit :=
  outcome.mapError (unavailable ("Cannot write cache file " ++ (entryPath directory job.key).text))

/-- A writer that has removed its staged file after a fault, or has not. -/
def onCleared (fault : FileFault) : Except FileFault Unit → FileDialogue (Except Fault Unit)
  | .error other => .done (ended directory job (.error other))
  | .ok () => .done (ended directory job (.error fault))

/-- A writer that removes its staged file after a fault. -/
def clearing (staged : Path) (fault : FileFault) : FileDialogue (Except Fault Unit) :=
  .ask (.discard staged) (onCleared directory job fault)

/-- A writer that has put its staged file in its place, or has not. -/
def onPlaced (staged : Path) : Except FileFault Unit → FileDialogue (Except Fault Unit)
  | .error fault => clearing directory job staged fault
  | .ok () => .done (ended directory job (.ok ()))

/-- A writer that puts its staged file in its place. -/
def placing (staged : Path) : FileDialogue (Except Fault Unit) :=
  .ask (.rename staged (entryPath directory job.key)) (onPlaced directory job staged)

/-- A writer that has written its staged file, or has not. -/
def onFilled (staged : Path) : Except FileFault Unit → FileDialogue (Except Fault Unit)
  | .error fault => clearing directory job staged fault
  | .ok () => placing directory job staged

/-- A writer that writes its staged file. -/
def filling (staged : Path) : FileDialogue (Except Fault Unit) :=
  .ask (.write staged job.file) (onFilled directory job staged)

/-- A writer that has staged a file, or has not. -/
def onStaged : Except FileFault Path → FileDialogue (Except Fault Unit)
  | .error fault => .done (ended directory job (.error fault))
  | .ok staged => filling directory job staged

/-- A writer that stages a file. -/
def staging : FileDialogue (Except Fault Unit) :=
  .ask (.stage directory (stem job.key)) (onStaged directory job)

/-- A writer that has made the directory, or has not. -/
def onMade : Except FileFault Unit → FileDialogue (Except Fault Unit)
  | .error fault => .done (ended directory job (.error fault))
  | .ok () => staging directory job

/-- A writer that makes the directory. -/
def making : FileDialogue (Except Fault Unit) :=
  .ask (.makeDirectories directory) (onMade directory job)

/-- How far a writer has come. -/
inductive Phase where
  /-- It makes the directory. -/
  | making
  /-- It stages a file. -/
  | staging
  /-- It writes the file that is staged under a name. -/
  | filling (name : String)
  /-- It puts the file in its place. -/
  | placing (name : String)
  /-- It removes the file after a fault. -/
  | clearing (name : String) (fault : FileFault)
  /-- It has ended. -/
  | finished (outcome : Except Fault Unit)

/-- What a writer still does. -/
def Phase.rest : Phase → FileDialogue (Except Fault Unit)
  | .making => FileStore.making directory job
  | .staging => FileStore.staging directory job
  | .filling name => FileStore.filling directory job (directory.child name)
  | .placing name => FileStore.placing directory job (directory.child name)
  | .clearing name fault => FileStore.clearing directory job (directory.child name) fault
  | .finished outcome => .done outcome

/-- The name of the file that a writer has staged. -/
def Phase.held? : Phase → Option String
  | .filling name | .placing name | .clearing name _ => some name
  | _ => none

end Course

/-! ### What stands in the directory -/

/-- What is to be found under a name that no writer holds: the file that took its place last, or
what was there before. -/
def expected (jobs : ι → Job) (old : String → Option FileNode) (placed : List ι) (name : String) :
    Option FileNode :=
  match Race.lastIn? jobs placed name with
  | some i => some (.file (jobs i).file)
  | none => old name

theorem lastIn?_concat (jobs : ι → Job) (placed : List ι) (i : ι) (name : String) :
    Race.lastIn? jobs (placed ++ [i]) name =
      if fileName (jobs i).key = name then some i else Race.lastIn? jobs placed name := by
  unfold Race.lastIn?
  rw [List.reverse_append, List.reverse_singleton, List.singleton_append]
  by_cases h : fileName (jobs i).key = name
  · rw [if_pos h, List.find?_cons_of_pos (by simpa using h)]
  · rw [if_neg h, List.find?_cons_of_neg (by simpa using h)]

theorem expected_concat (jobs : ι → Job) (old : String → Option FileNode) (placed : List ι) (i : ι)
    (name : String) :
    expected jobs old (placed ++ [i]) name =
      if fileName (jobs i).key = name then some (.file (jobs i).file)
      else expected jobs old placed name := by
  unfold expected
  rw [lastIn?_concat]
  by_cases h : fileName (jobs i).key = name
  · rw [if_pos h, if_pos h]
  · rw [if_neg h, if_neg h]

/-- Under a name that is no key's file nothing is put in place. -/
theorem expected_of_ne {old : String → Option FileNode} {placed : List ι} {name : String}
    (h : ∀ key, fileName key ≠ name) : expected jobs old placed name = old name := by
  have hnone : Race.lastIn? jobs placed name = none :=
    List.find?_eq_none.mpr fun i _ => by simpa using h (jobs i).key
  rw [expected, hnone]

/-- What is seen in the directory when writers have come so far. -/
structure Stands (jobs : ι → Job) (old : String → Option FileNode) (placed : List ι)
    (phase : ι → Phase) (view : String → Option FileNode) : Prop where
  /-- What a writer has staged is a file under a new name, and under no key's. -/
  held : ∀ i name, (phase i).held? = some name → IsFileName name ∧ (∀ key, fileName key ≠ name) ∧
    old name = none ∧ ∃ bytes, view name = some (.file bytes)
  /-- No two writers share a staged file. -/
  apart : ∀ i j name, (phase i).held? = some name → (phase j).held? = some name → i = j
  /-- A file that is to take its place is complete. -/
  complete : ∀ i name, phase i = .placing name → view name = some (.file (jobs i).file)
  /-- Under every other name there is what is expected. -/
  others : ∀ name, (∀ i, (phase i).held? ≠ some name) → view name = expected jobs old placed name

namespace Stands

variable {old view view' : String → Option FileNode} {placed placed' : List ι} {phase : ι → Phase}
variable {p : Phase} {name mark : String} {bytes : List UInt8}

/-- Under the name of a key there is what is expected. -/
theorem view_fileName (h : Stands jobs old placed phase view) (key : String) :
    view (fileName key) = expected jobs old placed (fileName key) := by
  apply h.others
  intro i hheld
  exact (h.held i _ hheld).2.1 key rfl

/-- Under a name that neither a writer nor any other holds there is what is expected. -/
theorem view_eq (h : Stands jobs old placed phase view) (hi : (phase i).held? ≠ some name)
    (hothers : ∀ j, j ≠ i → (phase j).held? ≠ some name) :
    view name = expected jobs old placed name := by
  apply h.others
  intro j
  by_cases hji : j = i
  · rwa [hji]
  · exact hothers j hji

/-- What another writer holds is none of this one's. -/
theorem ne_of_held (h : Stands jobs old placed phase view) (hheld : (phase i).held? = some name)
    {j : ι} {other : String} (hji : j ≠ i) (hother : (phase j).held? = some other) :
    other ≠ name := by
  rintro rfl
  exact hji (h.apart j i other hother hheld)

/-- When a writer's file is gone, there is what is expected under all names that no other holds. -/
theorem update_none_eq (h : Stands jobs old placed phase view)
    (hheld : (phase i).held? = some name) {other : String}
    (hothers : ∀ j, j ≠ i → (phase j).held? ≠ some other) :
    Function.update view name none other = expected jobs old placed other := by
  obtain ⟨-, hkey, hold, -⟩ := h.held i name hheld
  by_cases hdiffer : other = name
  · rw [hdiffer, Function.update_self, expected_of_ne hkey, hold]
  · rw [Function.update_of_ne hdiffer]
    exact h.view_eq (by simpa [hheld] using Ne.symm hdiffer) hothers

variable [DecidableEq ι] (h : Stands jobs old placed phase view)
include h

/-- A writer goes on. What it holds then must be its own, and the rest must be as expected. -/
theorem move (hheld : ∀ name, p.held? = some name → IsFileName name ∧
      (∀ key, fileName key ≠ name) ∧ old name = none ∧ ∃ bytes, view' name = some (.file bytes))
    (hown : ∀ name, p.held? = some name → ∀ j, j ≠ i → (phase j).held? ≠ some name)
    (hcomplete : ∀ name, p = .placing name → view' name = some (.file (jobs i).file))
    (hkept : ∀ j, j ≠ i → ∀ name, (phase j).held? = some name → view' name = view name)
    (hothers : ∀ name, (∀ j, j ≠ i → (phase j).held? ≠ some name) → p.held? ≠ some name →
      view' name = expected jobs old placed' name) :
    Stands jobs old placed' (Function.update phase i p) view' where
  held j name hj := by
    by_cases hji : j = i
    · subst hji
      rw [Function.update_self] at hj
      exact hheld name hj
    · rw [Function.update_of_ne hji] at hj
      rw [hkept j hji name hj]
      exact h.held j name hj
  apart j k name hj hk := by
    by_cases hji : j = i
    · subst hji
      by_contra hne
      rw [Function.update_self] at hj
      rw [Function.update_of_ne (Ne.symm hne)] at hk
      exact hown name hj k (Ne.symm hne) hk
    · rw [Function.update_of_ne hji] at hj
      by_cases hki : k = i
      · subst hki
        rw [Function.update_self] at hk
        exact absurd hj (hown name hk j hji)
      · rw [Function.update_of_ne hki] at hk
        exact h.apart j k name hj hk
  complete j name hj := by
    by_cases hji : j = i
    · subst hji
      rw [Function.update_self] at hj
      exact hcomplete name hj
    · rw [Function.update_of_ne hji] at hj
      rw [hkept j hji name (by rw [hj]; rfl)]
      exact h.complete j name hj
  others name hname := by
    apply hothers
    · intro j hji
      have hj := hname j
      rwa [Function.update_of_ne hji] at hj
    · have hi := hname i
      rwa [Function.update_self] at hi

/-- A writer that holds nothing goes on and holds nothing. -/
theorem pass (hphase : (phase i).held? = none) (hp : p.held? = none) :
    Stands jobs old placed (Function.update phase i p) view := by
  apply h.move
  · simp [hp]
  · simp [hp]
  · rintro name rfl
    cases hp
  · exact fun _ _ _ _ => rfl
  · intro name hname _
    exact h.view_eq (by simp [hphase]) hname

/-- A writer stages a file under a free name. -/
theorem stage (hphase : (phase i).held? = none) (hname : IsFileName name)
    (hkey : ∀ key, fileName key ≠ name) (hfree : view name = none) :
    Stands jobs old placed (Function.update phase i (.filling name))
      (Function.update view name (some (.file []))) := by
  have hnobody : ∀ j, (phase j).held? ≠ some name := by
    intro j hj
    obtain ⟨-, -, -, bytes, hbytes⟩ := h.held j name hj
    rw [hfree] at hbytes
    cases hbytes
  have hold : old name = none := by
    have hexpected : expected jobs old placed name = old name := expected_of_ne hkey
    rw [← hexpected, ← h.others name hnobody, hfree]
  apply h.move
  · rintro other ⟨⟩
    exact ⟨hname, hkey, hold, [], Function.update_self ..⟩
  · rintro other ⟨⟩ j -
    exact hnobody j
  · rintro other ⟨⟩
  · intro j _ other hother
    apply Function.update_of_ne
    rintro rfl
    exact hnobody j hother
  · intro other hother hne
    have hdiffer : other ≠ name := by
      rintro rfl
      exact hne rfl
    rw [Function.update_of_ne hdiffer]
    exact h.view_eq (by simp [hphase]) hother

variable (hheld : (phase i).held? = some name)
include hheld

/-- A writer's file is gone, and nothing has taken its place. -/
theorem clear (hp : p.held? = none) :
    Stands jobs old placed (Function.update phase i p) (Function.update view name none) := by
  apply h.move
  · simp [hp]
  · simp [hp]
  · rintro other rfl
    cases hp
  · intro j hji other hother
    exact Function.update_of_ne (h.ne_of_held hheld hji hother) _ _
  · intro other hother _
    exact h.update_none_eq hheld hother

/-- A writer's file takes its place. -/
theorem place (hp : p.held? = none) :
    Stands jobs old (placed ++ [i]) (Function.update phase i p)
      (Function.update (Function.update view name none) (fileName (jobs i).key)
        (some (.file (jobs i).file))) := by
  apply h.move
  · simp [hp]
  · simp [hp]
  · rintro other rfl
    cases hp
  · intro j hji other hother
    rw [Function.update_of_ne ((h.held j other hother).2.1 _).symm,
      Function.update_of_ne (h.ne_of_held hheld hji hother)]
  · intro other hother _
    rw [expected_concat]
    by_cases htarget : fileName (jobs i).key = other
    · rw [if_pos htarget, htarget, Function.update_self]
    · rw [if_neg htarget, Function.update_of_ne (Ne.symm htarget)]
      exact h.update_none_eq hheld hother

end Stands

end StyleTokens.FileStore
