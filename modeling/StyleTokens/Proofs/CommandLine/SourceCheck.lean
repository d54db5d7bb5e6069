import StyleTokens.CommandLine.Caching
import StyleTokens.Proofs.World

/-!
# What a check of the cache is worth

A check of the cache says whether the preset source has changed since its digest was stored. It is
followed through a world in which every change of files may fail. When it says that nothing has
changed, the stored digest is that of the source, or a change of the store has failed and the check
was skipped.
-/

namespace StyleTokens

/-! ### A store in files -/

namespace FileStore

variable {tree after : FileTree} {directory : Path} {key : String} {now : Binary64}

/-- Looking under a key changes nothing, or it finds nothing and leaves nothing to be found. -/
theorem get_of_reaches {found : Option String}
    (h : (get directory now key).Reaches (FileTree.Meets FileRequest.IsChange) tree (.ok found)
      after) :
    (after = tree ∧ ((get directory now key).runOn tree).1 = .ok found) ∨
      (found = none ∧ after.find (entryPath directory key) = .error .missing) := by
  rw [runOn_get_fst]
  replace h := FileTree.reaches_exists?_iff.mp h
  cases hfind : tree.find (entryPath directory key) with
  | error problem =>
    cases problem <;> rw [FileTree.exists?, hfind] at h <;>
      obtain ⟨hfound, rfl⟩ := Dialogue.reaches_done_iff.mp h <;> cases hfound
    all_goals exact .inl ⟨rfl, rfl⟩
  | ok node =>
    rw [FileTree.exists?_of_find hfind] at h
    replace h := FileTree.reaches_read_iff.mp h
    cases node with
    | directory =>
      rw [FileTree.read, hfind] at h
      cases (Dialogue.reaches_done_iff.mp h).1
    | file bytes =>
      rw [FileTree.read_of_find hfind] at h
      change after = tree ∧ (readEntry now bytes).map Reading.text? = .ok found ∨ _
      cases hreading : readEntry now bytes with
      | error fault =>
        simp only [hreading] at h
        cases (Dialogue.reaches_done_iff.mp h).1
      | ok reading =>
        simp only [hreading] at h
        cases reading with
        | text text =>
          obtain ⟨hfound, hafter⟩ := Dialogue.reaches_done_iff.mp h
          exact .inl ⟨hafter, hfound.symm⟩
        | corrupt =>
          obtain ⟨hfound, hafter⟩ := Dialogue.reaches_done_iff.mp h
          exact .inl ⟨hafter, hfound.symm⟩
        | expired =>
          obtain ⟨reply, between, hdiscard, h⟩ := Dialogue.reaches_ask_iff.mp h
          change Except FileFault Unit at reply
          cases reply with
          | error fault => cases (Dialogue.reaches_done_iff.mp h).1
          | ok _ =>
            obtain ⟨hfound, rfl⟩ := Dialogue.reaches_done_iff.mp h
            cases hfound
            exact .inr ⟨rfl, FileTree.find_of_discarded hfind hdiscard⟩

end FileStore

namespace World

variable {world after : World} {directory : Path}

/-- A text is stored under a key in a directory. -/
def Stores (world : World) (directory : Path) (key text : String) : Prop :=
  ((FileStore.get directory world.time key).runOn world.files).1 = .ok (some text)

/-- Where the file of a key is missing, nothing is stored. -/
theorem not_stores_of_missing {key text : String}
    (h : world.files.find (FileStore.entryPath directory key) = .error .missing) :
    ¬world.Stores directory key text := by
  rw [Stores, FileStore.runOn_get_fst, h]
  exact nofun

/-- What a request of a cache whose store is in files may come to. -/
def MeetsCall (directory : Path) :
    (request : CacheRequest) → World → request.Answer → World → Prop
  | .store request, world, reply, after => ∃ now files,
    (FileStore.answer directory now request).Reaches (FileTree.Meets FileRequest.IsChange)
        world.files reply files ∧
      after = { world with time := now, files := files }
  | .clock, world, reply, after => after = { world with time := reply }
  | .note line, world, _, after => after = { world with notes := world.notes ++ [line] }

/-- A store in files answers in no other way, and it stays in its directory. -/
theorem meetsCall_of_reaches {request : CacheRequest} {reply : request.Answer} {store : Store}
    (h : (Store.server request (.file directory)).Reaches Meets world (reply, store) after) :
    MeetsCall directory request world reply after ∧ store = .file directory := by
  cases request with
  | store call =>
    obtain ⟨now, between, rfl, h⟩ := Dialogue.reaches_ask_iff.mp h
    obtain ⟨answered, later, hfiles, hdone⟩ := Dialogue.reaches_bind_iff.mp h
    obtain ⟨hpair, rfl⟩ := Dialogue.reaches_done_iff.mp hdone
    cases hpair
    obtain ⟨files, hreaches, rfl⟩ := files_of_reaches hfiles
    exact ⟨⟨now, files, hreaches, rfl⟩, rfl⟩
  | clock =>
    obtain ⟨time, between, rfl, hdone⟩ := Dialogue.reaches_ask_iff.mp h
    obtain ⟨hpair, rfl⟩ := Dialogue.reaches_done_iff.mp hdone
    cases hpair
    exact ⟨rfl, rfl⟩
  | note line =>
    obtain ⟨noted, between, hnote, hdone⟩ := Dialogue.reaches_ask_iff.mp h
    obtain ⟨hpair, rfl⟩ := Dialogue.reaches_done_iff.mp hdone
    cases hpair
    cases hnote
    exact ⟨rfl, rfl⟩

/-- An action of a cache comes to its outcome by way of what its requests come to. -/
theorem reaches_of_perform {α : Type} {action : CacheAction α} {outcome : Except Fault α}
    {store : Store}
    (h : ((Store.file directory).perform action).Reaches Meets world (outcome, store) after) :
    (action : CacheDialogue (Except Fault α)).Reaches (MeetsCall directory) world outcome after :=
  Dialogue.reaches_of_serve (fun _ _ _ _ _ => meetsCall_of_reaches) h

theorem isSilent_of_meetsCall {request : CacheRequest} {reply : request.Answer}
    (h : MeetsCall directory request world reply after) : world.IsSilent after := by
  cases request with
  | store request =>
    obtain ⟨now, files, -, rfl⟩ := h
    exact ⟨rfl, List.prefix_rfl⟩
  | clock =>
    cases h
    exact ⟨rfl, List.prefix_rfl⟩
  | note line =>
    cases h
    exact ⟨rfl, List.prefix_append _ _⟩

/-- An action of a cache writes nothing. -/
theorem isSilent_of_reaches {α : Type} {dialogue : CacheDialogue α} {result : α}
    (h : dialogue.Reaches (MeetsCall directory) world result after) : world.IsSilent after :=
  h.keeps (world.IsSilent ·)
    (fun _ _ _ _ hmeets hbefore => hbefore.trans (isSilent_of_meetsCall hmeets)) (.refl world)

end World

/-! ### What a check comes to -/

/-- An action that goes on when a backend cannot be reached comes to a good end by itself, or by way
of what is done instead. -/
theorem CacheAction.reaches_of_orUnavailable {α σ : Type}
    {meets : (r : CacheRequest) → σ → r.Answer → σ → Prop} {state last : σ} {action : CacheAction α}
    {rescue : Report → CacheAction α} {a : α}
    (h : (action.orUnavailable rescue : CacheDialogue (Except Fault α)).Reaches meets state (.ok a)
      last) :
    (action : CacheDialogue (Except Fault α)).Reaches meets state (.ok a) last ∨
      ∃ report between,
        (action : CacheDialogue (Except Fault α)).Reaches meets state
          (.error (.cacheUnavailable report)) between ∧
        (rescue report : CacheDialogue (Except Fault α)).Reaches meets between (.ok a) last := by
  obtain ⟨outcome, between, haction, hrest⟩ := Dialogue.reaches_bind_iff.mp h
  cases outcome with
  | ok result =>
    obtain ⟨hresult, rfl⟩ := Dialogue.reaches_done_iff.mp hrest
    cases hresult
    exact .inl haction
  | error fault =>
    dsimp only at hrest
    split at hrest
    · exact .inr ⟨_, between, haction, hrest⟩
    · cases (Dialogue.reaches_done_iff.mp hrest).1

namespace SheetCache

variable {world after : World} {directory : Path} {cache : SheetCache} {digest : String}

/-- What is noted when the store fails while the preset source is checked. -/
def skippedLine (report : Report) : Log.Line :=
  ⟨.debug, Log.rootLogger ++ ".cache.content_cache", "Source change check skipped: " ++ report.text⟩

/-- Looking for the stored digest changes nothing but the time, or it finds nothing and leaves
nothing to be found. -/
theorem storedDigest_of_reaches {found : Option String}
    (h : (cache.storedDigest : CacheDialogue _).Reaches (World.MeetsCall directory) world
      (.ok found) after) :
    (after = { world with time := after.time } ∧
        ((FileStore.get directory after.time cache.digestKey).runOn world.files).1 = .ok found) ∨
      (found = none ∧
        after.files.find (FileStore.entryPath directory cache.digestKey) = .error .missing) := by
  obtain ⟨reply, between, ⟨now, files, hget, rfl⟩, hdone⟩ := Dialogue.reaches_ask_iff.mp h
  obtain ⟨hreply, rfl⟩ := Dialogue.reaches_done_iff.mp hdone
  cases hreply
  obtain ⟨rfl, hfound⟩ | ⟨hnone, hmissing⟩ := FileStore.get_of_reaches hget
  · exact .inl ⟨rfl, hfound⟩
  · exact .inr ⟨hnone, hmissing⟩

/-- When nothing was replaced, the digest is the one that is stored. -/
theorem stores_of_replaceDigest
    (h : (cache.replaceDigest digest : CacheDialogue _).Reaches (World.MeetsCall directory) world
      (.ok false) after) :
    after = { world with time := after.time } ∧ after.Stores directory cache.digestKey digest := by
  obtain ⟨stored, between, hstored, hrest⟩ := Dialogue.reaches_andThen_iff.mp h
  change Option String at stored
  by_cases hsame : stored = some digest
  · rw [if_pos hsame] at hrest
    obtain ⟨-, rfl⟩ := Dialogue.reaches_done_iff.mp hrest
    obtain ⟨hafter, hget⟩ | ⟨hnone, -⟩ := storedDigest_of_reaches hstored
    · refine ⟨hafter, ?_⟩
      rw [hsame] at hget
      rw [hafter]
      exact hget
    · cases hsame.symm.trans hnone
  · rw [if_neg hsame] at hrest
    obtain ⟨_, _, -, hset⟩ := Dialogue.reaches_andThen_iff.mp hrest
    obtain ⟨_, _, -, hend⟩ := Dialogue.reaches_andThen_iff.mp hset
    cases (Dialogue.reaches_done_iff.mp hend).1

/-- When nothing was dropped, the digest is the one that is stored, or the store has failed and that
was noted. -/
theorem stores_of_dropIfChanged
    (h : (cache.dropIfChanged digest : CacheDialogue _).Reaches (World.MeetsCall directory) world
      (.ok false) after) :
    (after = { world with time := after.time } ∧ after.Stores directory cache.digestKey digest) ∨
      ∃ report, world.HasNoted after (skippedLine report) := by
  obtain ⟨changed, between, hchanged, hrest⟩ := Dialogue.reaches_andThen_iff.mp h
  cases changed with
  | true =>
    obtain ⟨_, _, -, hend⟩ := Dialogue.reaches_andThen_iff.mp hrest
    cases (Dialogue.reaches_done_iff.mp hend).1
  | false =>
    obtain ⟨-, rfl⟩ := Dialogue.reaches_done_iff.mp hrest
    obtain hreplaced | ⟨report, before, hreplaced, hskipped⟩ :=
      CacheAction.reaches_of_orUnavailable hchanged
    · exact .inl (stores_of_replaceDigest hreplaced)
    · obtain ⟨_, noted, hnoted, hend⟩ := Dialogue.reaches_andThen_iff.mp hskipped
      obtain ⟨_, _, rfl, hdone⟩ := Dialogue.reaches_ask_iff.mp hnoted
      obtain ⟨-, rfl⟩ := Dialogue.reaches_done_iff.mp hdone
      obtain ⟨-, rfl⟩ := Dialogue.reaches_done_iff.mp hend
      have hnotes := (World.isSilent_of_reaches hreplaced).notes
      refine .inr ⟨report, World.HasNoted.mono ?_ hnotes List.prefix_rfl⟩
      exact ⟨[skippedLine report], rfl, List.mem_cons_self⟩

/-- The same holds if the stored digest was looked for before. -/
theorem stores_of_checked {between : World} {previous : Option String}
    (hprevious : (cache.storedDigest : CacheDialogue _).Reaches (World.MeetsCall directory) world
      (.ok previous) between)
    (hdropped : (cache.dropIfChanged digest : CacheDialogue _).Reaches (World.MeetsCall directory)
      between (.ok false) after) :
    (after = { world with time := after.time } ∧ after.Stores directory cache.digestKey digest) ∨
      ∃ report, between.HasNoted after (skippedLine report) := by
  obtain ⟨hafter, hstores⟩ | hskipped := stores_of_dropIfChanged hdropped
  · left
    obtain ⟨hbetween, -⟩ | ⟨-, hmissing⟩ := storedDigest_of_reaches hprevious
    · rw [hbetween] at hafter
      exact ⟨hafter, hstores⟩
    · -- An entry that had expired is gone, so it is not what was found the second time.
      have hfiles : after.files = between.files := by rw [hafter]
      rw [← hfiles] at hmissing
      exact absurd hstores (World.not_stores_of_missing hmissing)
  · exact .inr hskipped

end SheetCache

namespace CommandLine

variable {world after : World} {directory : Path}

/-- A lifted action comes to a good end by itself. -/
theorem Step.reaches_of_ofAction {α σ : Type}
    {meets : (effect : Effect) → σ → effect.Answer → σ → Prop} {state last : σ} {action : Action α}
    {a : α} (h : (Step.ofAction action : EffectDialogue _).Reaches meets state (.ok a) last) :
    (action : EffectDialogue (Except Fault α)).Reaches meets state (.ok a) last := by
  obtain ⟨outcome, between, haction, hdone⟩ := Dialogue.reaches_bind_iff.mp h
  obtain ⟨houtcome, rfl⟩ := Dialogue.reaches_done_iff.mp hdone
  cases outcome with
  | ok result =>
    cases houtcome
    exact haction
  | error fault => cases houtcome

/-- An action on a store comes to its outcome by way of what its requests come to. -/
theorem Step.reaches_of_perform {α : Type} {action : CacheAction α} {outcome : Except Fault α}
    (h : (Step.perform (.file directory) action : EffectDialogue _).Reaches World.Meets world
      (.ok outcome) after) :
    (action : CacheDialogue (Except Fault α)).Reaches (World.MeetsCall directory) world outcome
      after := by
  obtain ⟨found, between, hfound, hdone⟩ := Dialogue.reaches_bind_iff.mp h
  obtain ⟨houtcome, rfl⟩ := Dialogue.reaches_done_iff.mp hdone
  cases houtcome
  obtain ⟨⟨result, store⟩, last, hperform, hlast⟩ := Dialogue.reaches_bind_iff.mp hfound
  obtain ⟨rfl, rfl⟩ := Dialogue.reaches_done_iff.mp hlast
  exact World.reaches_of_perform hperform

/-- What is required comes of the action itself: a backend that cannot be reached ends the
command. -/
theorem reaches_of_required {α : Type} {action : CacheAction α} {a : α}
    (h : (required (.file directory) action : EffectDialogue _).Reaches World.Meets world (.ok a)
      after) :
    (action : CacheDialogue (Except Fault α)).Reaches (World.MeetsCall directory) world (.ok a)
      after := by
  obtain ⟨outcome, between, hperform, hrest⟩ := Dialogue.reaches_andThen_iff.mp h
  change Except Fault α at outcome
  cases outcome with
  | ok result =>
    obtain ⟨hresult, rfl⟩ := Dialogue.reaches_done_iff.mp hrest
    cases hresult
    exact Step.reaches_of_perform hperform
  | error fault =>
    split at hrest
    · rename_i hfault
      cases hfault
    · obtain ⟨_, _, -, hthrow⟩ := Dialogue.reaches_andThen_iff.mp hrest
      cases (Dialogue.reaches_done_iff.mp hthrow).1
    · cases (Dialogue.reaches_done_iff.mp hrest).1

/-- The digest of the preset source is read off the files, and they stay. -/
theorem sourceDigest_of_reaches {path : Option Path} {noted : Noted Log.Line String}
    (h : (Action.ofFiles (sourceDigest path) : EffectDialogue _).Reaches World.Meets world
      (.ok noted) after) :
    after = world ∧ ((sourceDigest path).runOn world.files).1 = noted := by
  obtain ⟨found, between, hfiles, hdone⟩ := Dialogue.reaches_bind_iff.mp h
  obtain ⟨hnoted, rfl⟩ := Dialogue.reaches_done_iff.mp hdone
  cases hnoted
  obtain ⟨files, hdigest, rfl⟩ := World.files_of_reaches hfiles
  cases path with
  | none =>
    obtain ⟨rfl, rfl⟩ := Dialogue.reaches_done_iff.mp hdigest
    exact ⟨rfl, rfl⟩
  | some path =>
    replace hdigest := FileTree.reaches_read_iff.mp hdigest
    obtain ⟨rfl, rfl⟩ := Dialogue.reaches_done_iff.mp hdigest
    exact ⟨rfl, rfl⟩

/-- The stored digest of a project is the one of its preset source. -/
def IsCurrent (project : Manifest) (world : World) : Prop :=
  ∃ digest, ((sourceDigest project.source.path).runOn world.files).1.outcome = .ok digest ∧
    world.Stores project.cache.directory project.cache.sheetCache.digestKey digest

/-- A check of the source writes nothing, and if it drops nothing then the stored digest is the one
of the source, or the store has failed and that was noted. -/
theorem isCurrent_of_checkSource {project : Manifest} {check : SourceCheck}
    (h : (checkSource project project.cache.sheetCache (.file project.cache.directory) :
      EffectDialogue _).Reaches World.Meets world (.ok check) after) :
    world.IsSilent after ∧
      (check.dropped = false →
        IsCurrent project after ∨
          ∃ report, world.HasNoted after (SheetCache.skippedLine report)) := by
  obtain ⟨noted, first, hdigest, hafter⟩ := Dialogue.reaches_andThen_iff.mp h
  obtain ⟨rfl, hsource⟩ := sourceDigest_of_reaches (Step.reaches_of_ofAction hdigest)
  obtain ⟨digest, second, hnoted, hlater⟩ := Dialogue.reaches_andThen_iff.mp hafter
  obtain ⟨hdigest, hsecond⟩ := World.reaches_of_noted (Step.reaches_of_ofAction hnoted)
  obtain ⟨previous, third, hprevious, hrest⟩ := Dialogue.reaches_andThen_iff.mp hlater
  obtain ⟨outcome, fourth, hdropped, hend⟩ := Dialogue.reaches_andThen_iff.mp hrest
  replace hprevious := reaches_of_required hprevious
  replace hdropped := Step.reaches_of_perform hdropped
  change Except Fault Bool at outcome
  cases outcome with
  | error fault => cases (Dialogue.reaches_done_iff.mp hend).1
  | ok dropped =>
    obtain ⟨hcheck, rfl⟩ := Dialogue.reaches_done_iff.mp hend
    cases hcheck
    have hnoted : first.IsSilent second := by
      rw [hsecond]
      exact ⟨rfl, List.prefix_append _ _⟩
    have hthird := World.isSilent_of_reaches hprevious
    refine ⟨hnoted.trans (hthird.trans (World.isSilent_of_reaches hdropped)), ?_⟩
    rintro rfl
    -- The source was read first, and the files have stayed as they were then.
    obtain ⟨hsame, hstores⟩ | ⟨report, hskipped⟩ := SheetCache.stores_of_checked hprevious hdropped
    · have hfiles : after.files = first.files := by rw [hsame, hsecond]
      exact .inl ⟨digest, by rw [hfiles, hsource, hdigest], hstores⟩
    · exact .inr ⟨report, hskipped.mono (hnoted.trans hthird).notes List.prefix_rfl⟩

/-- A line that is said is written, and nothing else changes. -/
theorem reaches_of_say {channel : Channel} {line : String}
    (h : (Step.say channel line : EffectDialogue _).Reaches World.Meets world (.ok ()) after) :
    after = { world with written := world.written ++ [(channel, line ++ "\n")] } := by
  obtain ⟨_, _, hprint, hdone⟩ := Dialogue.reaches_ask_iff.mp (Step.reaches_of_ofAction h)
  obtain ⟨-, rfl⟩ := Dialogue.reaches_done_iff.mp hdone
  cases hprint
  rfl

end CommandLine

/-! ### How a project is opened -/

namespace World.IsSettled

open CommandLine

variable {α β : Type}

theorem andThen {step : Step α} {rest : α → Step β} (h : IsSettled (step : EffectDialogue _))
    (hrest : ∀ a, IsSettled (rest a : EffectDialogue _)) :
    IsSettled ((step >>= rest : Step β) : EffectDialogue _) := by
  refine bind h fun outcome => ?_
  cases outcome with
  | ok a => exact hrest a
  | error ending => exact trivial

theorem ofAction {action : Action α} (h : IsSettled (action : EffectDialogue _)) :
    IsSettled (Step.ofAction action : EffectDialogue _) :=
  bind h fun _ => trivial

theorem say (channel : Channel) (line : String) :
    IsSettled (Step.say channel line : EffectDialogue _) :=
  ⟨fun _ _ _ h => h, fun _ _ => trivial⟩

theorem refuse (line : String) : IsSettled (Step.refuse line : EffectDialogue (Except Ending α)) :=
  andThen (say .err line) fun _ => trivial

theorem findManifest (session : Session) (manifest : Option String) :
    IsSettled (session.findManifest manifest : EffectDialogue _) := by
  cases manifest with
  | none =>
    refine ofAction (ofFiles ?_)
    unfold Manifest.find
    split
    · exact trivial
    · generalize session.directory :: session.directory.parents = directories
      induction directories with
      | nil => exact trivial
      | cons directory rest ih =>
        refine ⟨id, fun reply _ => ?_⟩
        cases reply with
        | error fault => exact trivial
        | ok there =>
          cases there with
          | false => exact ih
          | true => exact trivial
  | some name =>
    refine andThen (ofAction trivial) fun path => andThen (ofAction (ofFiles ?_)) fun there => ?_
    · exact ⟨id, fun _ _ => trivial⟩
    · split
      · exact trivial
      · exact refuse _

theorem readManifest (session : Session) (path : Option Path) :
    IsSettled (session.readManifest path : EffectDialogue _) := by
  cases path with
  | none => exact trivial
  | some path =>
    refine andThen (bind (ofFiles ⟨id, fun _ _ => trivial⟩) fun _ => trivial) fun outcome => ?_
    change Except Fault Manifest at outcome
    split
    · exact trivial
    · exact refuse _
    · exact trivial

end World.IsSettled

namespace CommandLine

variable {world after : World}

/-- A project that is opened is the one that a run opens; setting the log up changes nothing but
files. -/
theorem run_of_openProject {session : Session} {manifest : Option String} {project : Manifest}
    (h : (session.openProject manifest : EffectDialogue _).Reaches World.Meets world (.ok project)
      after) :
    ∃ opened, world.run (session.openProject manifest) = (.ok project, opened) ∧
      after = { opened with files := after.files } := by
  obtain ⟨path, between, hfind, hrest⟩ := Dialogue.reaches_andThen_iff.mp h
  obtain ⟨_, opened, hmanifest, hlog⟩ := Dialogue.reaches_andThen_iff.mp hrest
  have hfound := (World.IsSettled.findManifest session manifest).run_eq hfind
  have hread := (World.IsSettled.readManifest session path).run_eq hmanifest
  obtain ⟨_, _, hset, hdone⟩ := Dialogue.reaches_andThen_iff.mp hlog
  obtain ⟨_, _, ⟨files, rfl⟩, hlogged⟩ :=
    Dialogue.reaches_ask_iff.mp (Step.reaches_of_ofAction hset)
  obtain ⟨-, rfl⟩ := Dialogue.reaches_done_iff.mp hlogged
  obtain ⟨hproject, rfl⟩ := Dialogue.reaches_done_iff.mp hdone
  cases hproject
  refine ⟨opened, ?_, rfl⟩
  rw [Session.openProject, World.run_andThen hfound, World.run_andThen hread]
  rfl

/-- What is said when nothing has changed. -/
def currentLine : Channel × String := (.out, "Preset source unchanged; cache is current\n")

/-- When a project with a cache in files is checked and all that is said is that its preset source
is unchanged, the stored digest is the one of the source; or else a change of the store has failed,
and a note tells that the check was skipped. -/
theorem isCurrent_of_checkCache {session : Session} {manifest : Option String} {project : Manifest}
    {opened : World} (hopen : world.run (session.openProject manifest) = (.ok project, opened))
    (hbackend : project.cache.backend = .file)
    (h : (checkCache session manifest : EffectDialogue _).Reaches World.Meets world (.ok ()) after)
    (hsaid : after.written = opened.written ++ [currentLine]) :
    IsCurrent project after ∨ ∃ report, opened.HasNoted after (SheetCache.skippedLine report) := by
  obtain ⟨_, begun, hreached, hrest⟩ := Dialogue.reaches_andThen_iff.mp h
  obtain ⟨_, hrun, hbegun⟩ := run_of_openProject hreached
  rw [hopen] at hrun
  cases hrun
  -- The store is opened anew, with nothing but the settings.
  have hcache : RenderContext.openCache project.cache none =
      some (project.cache.sheetCache, .file project.cache.directory) := by
    rw [RenderContext.openCache, Store.ofSettings, hbackend]
    rfl
  rw [hcache] at hrest
  obtain ⟨check, checked, hcheck, hlater⟩ := Dialogue.reaches_andThen_iff.mp hrest
  obtain ⟨hsilent, hcurrent⟩ := isCurrent_of_checkSource hcheck
  obtain ⟨_, noted, hnoted, hsay⟩ := Dialogue.reaches_andThen_iff.mp hlater
  obtain ⟨_, _, hnote, hdone⟩ := Dialogue.reaches_ask_iff.mp (Step.reaches_of_ofAction hnoted)
  obtain ⟨-, rfl⟩ := Dialogue.reaches_done_iff.mp hdone
  cases hnote
  cases reaches_of_say hsay
  have hwritten : checked.written = opened.written := by rw [hsilent.written, hbegun]
  have hnotes : begun.notes = opened.notes := by rw [hbegun]
  have hdropped : check.dropped = false := by
    change checked.written ++ _ = _ at hsaid
    rw [hwritten, List.append_cancel_left_eq] at hsaid
    by_contra hdropped
    rw [SourceCheck.report, if_pos (by simpa using hdropped)] at hsaid
    exact absurd hsaid (by decide)
  obtain hcurrent | ⟨report, hskipped⟩ := hcurrent hdropped
  · exact .inl hcurrent
  · refine .inr ⟨report, hskipped.mono ?_ (List.prefix_append _ _)⟩
    rw [hnotes]

/-- A manifest with a cache in files. -/
def cachingManifest : List UInt8 :=
  Text.encodeUtf8 "[cache]\nbackend = \"file\"\ndirectory = \"store\"\n"

/-- A world with such a manifest, and with something in the place of the cache. -/
def worldWith (nodes : List (List String × FileNode)) : World where
  files := ⟨([Manifest.fileName], .file cachingManifest) :: nodes, []⟩
  time := .ofInt 0
  server := ⟨[], fun _ => none, fun _ _ => false, []⟩
  previewProgram := none
  previewRun := .timeout
  notes := []
  written := []

/-- A session beside the manifest. -/
def sessionAtRoot : Session := ⟨.ofText "/", .none, false, 80, ""⟩

/-- A world in which the digest of a source that is not there is stored. -/
def storedWorld : World :=
  let key := SheetCache.digestKey ⟨defaultScope, .null⟩
  worldWith [(["store"], .directory),
    (["store", FileStore.fileName key], .file (FileStore.entryBytes key absentDigest none))]

/-- A world in which a file stands in the place of the cache. -/
def blockedWorld : World := worldWith [(["store"], .file [])]

/-- In a world the project beside the manifest has a cache in files, and a check of it says that it
is current. -/
def IsSaidCurrent (world : World) : Prop :=
  (world.run (sessionAtRoot.openProject none)).1.toOption.map
      (fun project => (project.cache.backend, project.cache.directory)) =
    some (.file, .ofText "/store") ∧
  (world.run (sessionAtRoot.openProject none)).2.written = [] ∧
  (world.run (checkCache sessionAtRoot none)).1 = .ok () ∧
  (world.run (checkCache sessionAtRoot none)).2.written = [currentLine]

instance (world : World) : Decidable (IsSaidCurrent world) :=
  inferInstanceAs (Decidable (_ ∧ _ ∧ _ ∧ _))

theorem IsSaidCurrent.exists_project {world : World} (h : IsSaidCurrent world) :
    ∃ project opened, world.run (sessionAtRoot.openProject none) = (.ok project, opened) ∧
      project.cache.backend = .file ∧ project.cache.directory = .ofText "/store" ∧
      opened.written = [] := by
  obtain ⟨hsettings, hopened, -⟩ := h
  obtain ⟨project, hproject, hcache⟩ := Option.map_eq_some_iff.mp hsettings
  obtain ⟨hbackend, hdirectory⟩ := Prod.mk.inj hcache
  cases hrun : world.run (sessionAtRoot.openProject none) with
  | mk outcome opened =>
    rw [hrun] at hproject hopened
    cases outcome with
    | error ending => cases hproject
    | ok found =>
      cases hproject
      exact ⟨project, opened, rfl, hbackend, hdirectory, hopened⟩

theorem IsSaidCurrent.reaches {world : World} (h : IsSaidCurrent world) :
    (checkCache sessionAtRoot none : EffectDialogue _).Reaches World.Meets world (.ok ())
      (world.run (checkCache sessionAtRoot none)).2 := by
  have hreaches := Dialogue.reaches_run World.meets_answer
    (checkCache sessionAtRoot none : EffectDialogue (Except Ending Unit)) world
  change Dialogue.Reaches _ _ _ (world.run (checkCache sessionAtRoot none)).1 _ at hreaches
  rw [h.2.2.1] at hreaches
  exact hreaches

/-- In a world where the digest of the source is stored, the check tells the truth. -/
theorem isCurrent_of_checkCache_stored : ∃ project opened,
    storedWorld.run (sessionAtRoot.openProject none) = (.ok project, opened) ∧
      IsCurrent project (storedWorld.run (checkCache sessionAtRoot none)).2 := by
  have hworld : IsSaidCurrent storedWorld ∧
      ∀ line ∈ (storedWorld.run (checkCache sessionAtRoot none)).2.notes, line.level = .info := by
    decide +kernel
  obtain ⟨hsaid, hinfo⟩ := hworld
  obtain ⟨project, opened, hopen, hbackend, -, hwritten⟩ := hsaid.exists_project
  refine ⟨project, opened, hopen, ?_⟩
  obtain hcurrent | ⟨report, noted, hnotes, hskipped⟩ :=
    isCurrent_of_checkCache hopen hbackend hsaid.reaches
      (by rw [hwritten, hsaid.2.2.2, List.nil_append])
  · exact hcurrent
  · have hlevel := hinfo (SheetCache.skippedLine report)
      (by rw [hnotes]; exact List.mem_append_right _ hskipped)
    change Log.Level.debug = .info at hlevel
    exact absurd hlevel (by decide)

/-- A check can say that nothing has changed where no digest is stored. -/
theorem not_isCurrent : ¬∀ (session : Session) (manifest : Option String) (project : Manifest)
    (world opened after : World),
    world.run (session.openProject manifest) = (.ok project, opened) →
      project.cache.backend = .file →
      (checkCache session manifest : EffectDialogue _).Reaches World.Meets world (.ok ()) after →
      after.written = opened.written ++ [currentLine] → IsCurrent project after := by
  intro hcurrent
  have hsaid : IsSaidCurrent blockedWorld ∧
      (blockedWorld.run (checkCache sessionAtRoot none)).2.files.find (.ofText "/store") =
        .ok (.file []) := by
    decide +kernel
  obtain ⟨hsaid, hfile⟩ := hsaid
  obtain ⟨project, opened, hopen, hbackend, hdirectory, hwritten⟩ := hsaid.exists_project
  obtain ⟨digest, -, hstores⟩ := hcurrent _ _ project _ opened _ hopen hbackend hsaid.reaches
    (by rw [hwritten, hsaid.2.2.2, List.nil_append])
  have hentry := FileTree.find_child_of_file hfile
    (FileStore.isFileName_fileName project.cache.sheetCache.digestKey)
  rw [World.Stores, FileStore.runOn_get_fst, hdirectory, FileStore.entryPath] at hstores
  change FileStore.answerOf _ _ _ (FileTree.find _ (Path.child _ (FileStore.fileName _))) = _ 
    at hstores
  rw [hentry] at hstores
  cases hstores

end CommandLine

end StyleTokens
