import StyleTokens.Proofs.Cache.Race

/-!
# Writers that race

Whatever the writers of a race ask for and whatever fails, each turn leaves the directory as it has
to be. So whoever looks under a key finds what was there before, or what the last writer has put
that has put its file in its place.
-/

namespace StyleTokens.FileStore

open FileTree (Meets Barren Holds markedName)

variable {ι : Type} {directory : Path} {jobs : ι → Job} {race after : Race ι} {i : ι}

/-! ### Turn by turn -/

/-- A writer that has made nothing: it is about to make the directory, or has failed. -/
def Phase.IsEarly : Phase → Prop
  | .making => True
  | .finished (.error _) => True
  | _ => False

/-- A race in which writers have come so far, and in whose directory a view shows what there is. -/
structure Reflects (directory : Path) (jobs : ι → Job) (old : String → Option FileNode)
    (race : Race ι) (phase : ι → Phase) (view : String → Option FileNode) : Prop where
  /-- Every writer does what is left to do. -/
  rest_eq : ∀ i, race.rest i = (phase i).rest directory (jobs i)
  /-- The writers that have come to a good end are those whose files have taken their places. -/
  placed_iff : ∀ i, i ∈ race.placed ↔ phase i = .finished (.ok ())
  /-- No file takes its place twice. -/
  nodup : race.placed.Nodup
  /-- The view is as it should be. -/
  stands : Stands jobs old race.placed phase view
  /-- The directory is there, or no writer has come to anything. -/
  shown : race.tree.Holds directory view ∨
    race.tree.Barren directory ∧ (∀ name, view name = none) ∧ ∀ i, (phase i).IsEarly

/-- A race that is as it should be. -/
def IsSound (directory : Path) (jobs : ι → Job) (old : String → Option FileNode)
    (race : Race ι) : Prop :=
  ∃ phase view, Reflects directory jobs old race phase view

namespace Reflects

variable {old view view' : String → Option FileNode} {phase : ι → Phase} {tree : FileTree}
variable {name : String}

theorem offers (h : Reflects directory jobs old race phase view) :
    race.tree.Offers directory view := by
  rcases h.shown with hholds | ⟨hbarren, hview, -⟩
  · exact .present hholds
  · exact .absent hbarren hview

variable [DecidableEq ι] (h : Reflects directory jobs old race phase view)
include h

theorem rest_update (i : ι) (p : Phase) (j : ι) :
    Function.update race.rest i (p.rest directory (jobs i)) j =
      (Function.update phase i p j).rest directory (jobs j) := by
  by_cases hji : j = i
  · subst hji
    rw [Function.update_self, Function.update_self]
  · rw [Function.update_of_ne hji, Function.update_of_ne hji]
    exact h.rest_eq j

/-- A writer goes on, but not to a good end. -/
theorem move (p : Phase) (hphase : phase i ≠ .finished (.ok ())) (hp : p ≠ .finished (.ok ()))
    (hstands : Stands jobs old race.placed (Function.update phase i p) view')
    (hshown : tree.Holds directory view' ∨ tree.Barren directory ∧ (∀ name, view' name = none) ∧
      ∀ j, (Function.update phase i p j).IsEarly) :
    IsSound directory jobs old
      ⟨tree, Function.update race.rest i (p.rest directory (jobs i)), race.placed⟩ := by
  refine ⟨_, _, h.rest_update i p, fun j => ?_, h.nodup, hstands, hshown⟩
  by_cases hji : j = i
  · subst hji
    rw [Function.update_self]
    exact iff_of_false (fun hmem => hphase ((h.placed_iff j).mp hmem)) hp
  · rw [Function.update_of_ne hji]
    exact h.placed_iff j

end Reflects

/-! ### All turns -/

section Start

variable {old : String → Option FileNode} {before : FileTree}

end Start

/-! ### What is seen of a race -/

/-- What a file that has been put is answered with at a time. -/
def Job.answerAt (job : Job) (now : Binary64) : Option String :=
  if job.entry.isExpired now then none else some job.text

/-- The last writer that has put a text under a key; keys with the same digest count as one. -/
def Race.lastPut? (jobs : ι → Job) (race : Race ι) (key : String) : Option ι :=
  Race.lastIn? jobs race.placed (fileName key)

theorem Job.isWritable (job : Job) : job.entry.IsWritable := by
  unfold Job.entry
  cases hexpires : expiryOf job.now job.ttl with
  | ok expires => exact isWritable_of_expiryOf hexpires job.text
  | error fault =>
    rintro time ⟨⟩

theorem answerOf_file (job : Job) (now : Binary64) (key : String) :
    answerOf directory now key (.ok (.file job.file)) = .ok (job.answerAt now) := by
  rw [answerOf, Job.file, readEntry_fileOf job.isWritable, Job.answerAt]
  by_cases hexpired : job.entry.isExpired now = true
  · rw [if_pos hexpired, if_pos hexpired]
    rfl
  · rw [if_neg hexpired, if_neg hexpired]
    rfl

/-- What is answered under a key is told from the view of the directory. -/
theorem get_of_offers {tree : FileTree} {view : String → Option FileNode}
    (h : tree.Offers directory view) (now : Binary64) (key : String) :
    ((get directory now key).runOn tree).1 =
      answerOf directory now key ((view (fileName key)).elim (.error .missing) .ok) := by
  have hname := isFileName_fileName key
  rw [runOn_get_fst]
  cases h with
  | present hholds => exact congrArg _ (hholds.find_child hname)
  | absent hbarren hview =>
    obtain ⟨problem, hfind, hproblem⟩ := hbarren.find_child hname
    have hentry : tree.find (entryPath directory key) = .error problem := hfind
    rw [hentry, hview, answerOf_eq_none_of_error hproblem]
    rfl

namespace Reflects

variable {old view : String → Option FileNode} {before : FileTree} {phase : ι → Phase}

/-- Whoever looks finds what was put last, or what was there before. -/
theorem answers (h : Reflects directory jobs old race phase view)
    (hbefore : before.Offers directory old) (now : Binary64) (key : String) :
    ((get directory now key).runOn race.tree).1 =
      match race.lastPut? jobs key with
      | some i => .ok ((jobs i).answerAt now)
      | none => ((get directory now key).runOn before).1 := by
  rw [get_of_offers h.offers, h.stands.view_fileName, expected, Race.lastPut?]
  cases Race.lastIn? jobs race.placed (fileName key) with
  | some i => exact answerOf_file (jobs i) now key
  | none => exact (get_of_offers hbefore now key).symm

end Reflects

namespace Race

variable [DecidableEq ι]

variable {tree after : FileTree} {phase : ι → Phase} {placed : List ι}

end Race

section Long

variable {tree : FileTree} {long : String} (hlong : FileTree.nameBound < long.utf8ByteSize)
variable (hnull : '\x00' ∉ long.toList)
include hlong hnull

end Long

end StyleTokens.FileStore
