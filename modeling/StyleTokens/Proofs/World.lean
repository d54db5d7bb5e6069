import StyleTokens.Proofs.Cache.Forgetting
import StyleTokens.Proofs.Files.Failing
import StyleTokens.World

/-!
# Worlds in which changes of files may fail

Every request to change files may fail, in whatever way a file system can; what only reads files is
answered by what is there. What is noted and written on the way is kept. A computation that neither
changes files nor looks at the clock comes to nothing but what it is run to.
-/

namespace StyleTokens

/-- A request to change files. -/
def FileRequest.IsChange : FileRequest → Prop
  | .exists? _ | .isFile _ | .read _ | .list _ => False
  | .makeDirectories _ | .stage _ _ | .write _ _ | .append _ _ | .rename _ _ | .discard _ => True

namespace FileTree

variable {tree after : FileTree} {path : Path}

/-- What changes nothing does not fail. -/
theorem answered_of_meets {request : FileRequest} (hread : ¬request.IsChange)
    {reply : request.Answer} (h : Meets FileRequest.IsChange request tree reply after) :
    (reply, after) = answer request tree := by
  cases h with
  | answered => rfl
  | staged => exact absurd trivial hread
  | failed hchange => exact absurd hchange hread

/-- After a request that changes nothing a dialogue goes on with the answer of the tree. -/
theorem reaches_ask_iff_of_read {α : Type} {request : FileRequest} (hread : ¬request.IsChange)
    {next : request.Answer → FileDialogue α} {result : α} :
    (Dialogue.ask request next : FileDialogue α).Reaches (Meets FileRequest.IsChange) tree result
        after ↔
      (next (answer request tree).1).Reaches (Meets FileRequest.IsChange) (answer request tree).2
        result after := by
  rw [Dialogue.reaches_ask_iff]
  constructor
  · rintro ⟨reply, between, hmeets, h⟩
    rw [← answered_of_meets hread hmeets]
    exact h
  · exact fun h => ⟨_, _, .answered request tree, h⟩

theorem reaches_exists?_iff {α : Type} {next : Except FileFault Bool → FileDialogue α}
    {result : α} :
    (Dialogue.ask (.exists? path) next : FileDialogue α).Reaches (Meets FileRequest.IsChange) tree
        result after ↔
      (next (tree.exists? path)).Reaches (Meets FileRequest.IsChange) tree result after :=
  reaches_ask_iff_of_read id

theorem reaches_read_iff {α : Type} {next : Except FileFault (List UInt8) → FileDialogue α}
    {result : α} :
    (Dialogue.ask (.read path) next : FileDialogue α).Reaches (Meets FileRequest.IsChange) tree
        result after ↔
      (next (tree.read path)).Reaches (Meets FileRequest.IsChange) tree result after :=
  reaches_ask_iff_of_read id

/-- A file that has been discarded is not there. -/
theorem find_of_discarded {bytes : List UInt8} (hfind : tree.find path = .ok (.file bytes))
    (h : Meets FileRequest.IsChange (.discard path) tree (.ok ()) after) :
    after.find path = .error .missing := by
  obtain ⟨place, hlocate, hnode⟩ := find_eq_ok_iff.mp hfind
  have hdiscard := answer_discard (discard_of_locate hlocate hnode)
  -- The reply is not a variable, which case analysis needs it to be.
  generalize hreply : (Except.ok () : Except FileFault Unit) = reply at h
  cases h with
  | failed _ hfails =>
    obtain ⟨⟨fault, hfault⟩, -⟩ := hfails
    cases hreply.trans hfault
  | answered =>
    rw [hdiscard]
    have hkeeps : tree.KeepsDirectories (tree.drop place) := keepsDirectories_drop (by simp [hnode])
    exact find_eq_missing (hkeeps.locate hlocate) (node?_drop_self hnode)

end FileTree

namespace World

/-- What an effect may come to in a world in which every change of files may fail. Any time may have
come, and setting the log up may change any file. -/
def Meets : (effect : Effect) → World → effect.Answer → World → Prop
  | .file request, world, reply, after => ∃ files,
    FileTree.Meets FileRequest.IsChange request world.files reply files ∧
      after = { world with files := files }
  | .clock, world, reply, after => after = { world with time := reply }
  | .logTo _ _, world, _, after => ∃ files, after = { world with files := files }
  | .redis request, world, reply, after => (reply, after) = world.answer (.redis request)
  | .note line context, world, reply, after => (reply, after) = world.answer (.note line context)
  | .print channel text, world, reply, after => (reply, after) = world.answer (.print channel text)
  | .locate wanted, world, reply, after => (reply, after) = world.answer (.locate wanted)
  | .harness program corpus, world, reply, after =>
    (reply, after) = world.answer (.harness program corpus)

/-- What a world does is one of the things that may be. -/
theorem meets_answer (effect : Effect) (world : World) :
    Meets effect world (world.answer effect).1 (world.answer effect).2 := by
  cases effect with
  | file request => exact ⟨_, .answered request world.files, rfl⟩
  | logTo => exact ⟨world.files, rfl⟩
  | _ => rfl

variable {world after : World} {directory : Path}

/-- A computation with files changes nothing but files. -/
theorem files_of_reaches {α : Type} {dialogue : FileDialogue α} {result : α}
    (h : (EffectDialogue.ofFiles dialogue).Reaches Meets world result after) : ∃ files,
      dialogue.Reaches (FileTree.Meets FileRequest.IsChange) world.files result files ∧
        after = { world with files := files } := by
  replace h := Dialogue.reaches_relay_iff.mp h
  induction h with
  | done result world => exact ⟨world.files, .done result world.files, rfl⟩
  | ask hmeets _ ih =>
    obtain ⟨reply, between, ⟨files, hfiles, rfl⟩, hdone⟩ := Dialogue.reaches_ask_iff.mp hmeets
    obtain ⟨rfl, rfl⟩ := Dialogue.reaches_done_iff.mp hdone
    obtain ⟨last, hlast, rfl⟩ := ih
    exact ⟨last, .ask hfiles hlast, rfl⟩

/-- Lines that are noted change nothing else. -/
theorem notes_of_reaches {lines : List Log.Line}
    (h : (EffectDialogue.note lines).Reaches Meets world () after) :
    after = { world with notes := world.notes ++ lines } := by
  induction lines generalizing world with
  | nil =>
    obtain ⟨-, rfl⟩ := Dialogue.reaches_done_iff.mp h
    rw [List.append_nil]
  | cons line lines ih =>
    obtain ⟨_, _, hnote, hrest⟩ := Dialogue.reaches_ask_iff.mp h
    cases hnote
    rw [ih hrest, List.append_assoc, List.singleton_append]

/-- An outcome with notes is noted, and nothing else changes. -/
theorem reaches_of_noted {α : Type} {noted : Noted Log.Line α} {a : α}
    (h : (Action.noted id noted : EffectDialogue _).Reaches Meets world (.ok a) after) :
    noted.outcome = .ok a ∧ after = { world with notes := world.notes ++ noted.notes } := by
  obtain ⟨_, _, hlines, hdone⟩ := Dialogue.reaches_bind_iff.mp h
  obtain ⟨houtcome, rfl⟩ := Dialogue.reaches_done_iff.mp hdone
  have hafter := notes_of_reaches hlines
  rw [List.map_id] at hafter
  exact ⟨houtcome.symm, hafter⟩

/-- Nothing was written on the way from one world to another, and notes stay. -/
structure IsSilent (world after : World) : Prop where
  /-- Nothing was written. -/
  written : after.written = world.written
  /-- Notes stay. -/
  notes : world.notes <+: after.notes

theorem IsSilent.refl (world : World) : world.IsSilent world := ⟨rfl, List.prefix_rfl⟩

theorem IsSilent.trans {last : World} (h : world.IsSilent after) (hlast : after.IsSilent last) :
    world.IsSilent last :=
  ⟨hlast.written.trans h.written, h.notes.trans hlast.notes⟩

/-- A line was noted on the way from one world to another. -/
def HasNoted (world after : World) (line : Log.Line) : Prop :=
  ∃ noted, after.notes = world.notes ++ noted ∧ line ∈ noted

theorem HasNoted.mono {before last : World} {line : Log.Line} (h : HasNoted world after line)
    (hbefore : before.notes <+: world.notes) (hlast : after.notes <+: last.notes) :
    HasNoted before last line := by
  obtain ⟨noted, hnoted, hline⟩ := h
  obtain ⟨first, hfirst⟩ := hbefore
  obtain ⟨later, hlater⟩ := hlast
  refine ⟨first ++ noted ++ later, ?_, ?_⟩
  · rw [← hlater, hnoted, ← hfirst, List.append_assoc, List.append_assoc, List.append_assoc]
  · exact List.mem_append_left later (List.mem_append_right first hline)

/-- A computation that goes on is run part by part. -/
theorem run_andThen {ε α β : Type} {action : ExceptT ε EffectDialogue α}
    {rest : α → ExceptT ε EffectDialogue β} {a : α} (h : world.run action = (.ok a, after)) :
    world.run (action >>= rest : ExceptT ε EffectDialogue β) = after.run (rest a) := by
  refine (Dialogue.run_bind answer (action : EffectDialogue (Except ε α)) _ world).trans ?_
  unfold run at h ⊢
  rw [h]
  rfl

/-! ### Computations that nothing can go wrong with -/

/-- An effect that only one thing can come of. -/
def IsFixed (effect : Effect) : Prop :=
  ∀ world reply after, Meets effect world reply after → (reply, after) = world.answer effect

theorem isFixed_of_read {request : FileRequest} (hread : ¬request.IsChange) :
    IsFixed (.file request) := by
  rintro world reply after ⟨files, hmeets, rfl⟩
  exact congrArg (fun answered => (answered.1, { world with files := answered.2 }))
    (FileTree.answered_of_meets hread hmeets)

/-- A computation all of whose effects are fixed. -/
def IsSettled {α : Type} (dialogue : EffectDialogue α) : Prop :=
  dialogue.Upholds IsFixed (fun _ _ => True) fun _ => True

namespace IsSettled

variable {α β : Type}

/-- Only one thing can come of a settled computation. -/
theorem run_eq {dialogue : EffectDialogue α} (hsettled : IsSettled dialogue) {result : α}
    (h : dialogue.Reaches Meets world result after) : world.run dialogue = (result, after) := by
  induction h with
  | done => rfl
  | @ask effect next state _ _ _ _ hmeets _ ih =>
    have hanswer := hsettled.1 _ _ _ hmeets
    change (next (state.answer effect).1).run answer (state.answer effect).2 = _
    rw [← hanswer]
    exact ih (hsettled.2 _ trivial)

theorem bind {dialogue : EffectDialogue α} {rest : α → EffectDialogue β}
    (h : IsSettled dialogue) (hrest : ∀ a, IsSettled (rest a)) : IsSettled (dialogue.bind rest) :=
  Dialogue.Upholds.bind (Dialogue.Upholds.mono h fun a _ => hrest a)

/-- Reading files is settled. -/
theorem ofFiles {dialogue : FileDialogue α}
    (h : dialogue.Upholds (¬·.IsChange) (fun _ _ => True) fun _ => True) :
    IsSettled (EffectDialogue.ofFiles dialogue) := by
  induction dialogue with
  | done result => exact trivial
  | ask request next ih => exact ⟨isFixed_of_read h.1, fun reply _ => ih reply (h.2 reply trivial)⟩

end IsSettled

end World

end StyleTokens
