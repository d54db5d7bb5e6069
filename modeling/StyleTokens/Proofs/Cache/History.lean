import StyleTokens.Proofs.Cache.Opening

/-!
# What a cache has, told from its history

A cache on a store in memory and a clock of whole seconds are left to themselves: stylesheets are
put, looked up and dropped, and time passes. What is got in the end can be told from what was put
last under the key, unless everything was dropped since, and from the time that has passed. An
expired entry goes only when it is looked up, so the store agrees with the history no further than
that.
-/

namespace StyleTokens

/-- What can happen to a cache whose lifetimes are whole seconds. -/
inductive SheetEvent where
  /-- A stylesheet is put, with a lifetime or the one that is usual. -/
  | put (key text : String) (ttl : Option Int)
  /-- A stylesheet is looked up. -/
  | get (key : String)
  /-- All stylesheets are dropped. -/
  | clear
  /-- All stylesheets are dropped if the digest of the preset source is another one. -/
  | dropIfChanged (digest : String)
  /-- Time passes. -/
  | wait (seconds : ℕ)

/-- A stylesheet that was put. -/
structure PutSheet where
  /-- Its text. -/
  text : String
  /-- The time at which it was put. -/
  time : Int
  /-- For how many seconds it is good; zero means for ever. -/
  ttl : Int

/-- What did happen to the stylesheets of a cache. -/
inductive Happening where
  /-- One was put. -/
  | put (key : String) (sheet : PutSheet)
  /-- All were dropped. -/
  | dropped

namespace Happening

/-- The stylesheet that was put last under a key and not dropped since; what happened comes latest
first. -/
def last (key : String) : List Happening → Option PutSheet
  | [] => none
  | .dropped :: _ => none
  | .put other sheet :: earlier => if other = key then some sheet else last key earlier

end Happening

namespace PutSheet

/-- A stylesheet is still good at a time. -/
def IsGood (sheet : PutSheet) (time : Int) : Prop := sheet.ttl = 0 ∨ time < sheet.time + sheet.ttl

instance (sheet : PutSheet) (time : Int) : Decidable (sheet.IsGood time) :=
  inferInstanceAs (Decidable (_ ∨ _))

end PutSheet

/-- A cache at a time: the store, and what happened to its stylesheets, latest first. -/
structure SheetRun where
  /-- The time, in whole seconds. -/
  time : Int
  /-- The store. -/
  store : MemoryStore
  /-- What happened. -/
  past : List Happening

namespace SheetRun

/-- The time that the clock shows. -/
def now (run : SheetRun) : Binary64 := .ofInt run.time

/-- Nothing has happened yet. -/
def start (time : Int) : SheetRun := ⟨time, .empty, []⟩

/-- What the history says is under a key. -/
def current (run : SheetRun) (key : String) : Option String :=
  ((Happening.last key run.past).filter fun sheet => sheet.IsGood run.time).map (·.text)

variable (scope : String) (usual : Int)

/-- The cache of the run. -/
def cache : SheetCache := ⟨scope, .num (.int usual)⟩

/-- The run after an event. Putting a stylesheet counts if it succeeds, and dropping them if they
were dropped. -/
def step (run : SheetRun) : SheetEvent → SheetRun
  | .put key text ttl =>
    let (outcome, after) :=
      ((cache scope usual).put key text (ttl.map fun n => .num (.int n))).onMemoryAt run.now run.store
    match outcome with
    | .ok () => ⟨run.time, after, .put key ⟨text, run.time, ttl.getD usual⟩ :: run.past⟩
    | .error _ => ⟨run.time, after, run.past⟩
  | .get key =>
    ⟨run.time, (((cache scope usual).get key).onMemoryAt run.now run.store).2, run.past⟩
  | .clear =>
    let (outcome, after) := (cache scope usual).clear.onMemoryAt run.now run.store
    match outcome with
    | .ok _ => ⟨run.time, after, .dropped :: run.past⟩
    | .error _ => ⟨run.time, after, run.past⟩
  | .dropIfChanged digest =>
    let (outcome, after) := ((cache scope usual).dropIfChanged digest).onMemoryAt run.now run.store
    match outcome with
    | .ok true => ⟨run.time, after, .dropped :: run.past⟩
    | _ => ⟨run.time, after, run.past⟩
  | .wait seconds => ⟨run.time + seconds, run.store, run.past⟩

/-- The run after some events. -/
def after (events : List SheetEvent) (run : SheetRun) : SheetRun :=
  events.foldl (step scope usual) run

section Faithful

variable {scope usual}

/-- What was put at a time after the start, with a lifetime in range, and one below `2 ^ 53` if the
start is before zero. -/
structure Sound (start time : Int) (sheet : PutSheet) : Prop where
  /-- It was put after the start. -/
  begun : start ≤ sheet.time
  /-- It was put by now. -/
  past : sheet.time ≤ time
  /-- Its lifetime is not past every double. -/
  range : InDoubleRange sheet.ttl
  /-- Its lifetime is not rounded to another time. -/
  exact : 0 ≤ start ∨ sheet.ttl.natAbs < 2 ^ 53

/-- The entry of the store that was made for a stylesheet. -/
def entryOf (sheet : PutSheet) : MemoryEntry :=
  ⟨Envelope.write sheet.text (.ofInt sheet.time) (.num (.int sheet.ttl)),
    deadline (.ofInt sheet.time) sheet.ttl⟩

/-- An entry expires when its stylesheet is no longer good. -/
theorem isExpired_entryOf {start time : Int} {sheet : PutSheet} (h : Sound start time sheet)
    (hstart : -2 ^ 53 < start) (htime : time < 2 ^ 53) :
    (entryOf sheet).isExpired (.ofInt time) = !decide (sheet.IsGood time) := by
  obtain ⟨hbegun, hpast, hrange, hexact⟩ := h
  unfold MemoryEntry.isExpired entryOf deadline PutSheet.IsGood
  by_cases hzero : sheet.ttl = 0
  · simp [hzero]
  · have hle : _ ↔ sheet.time + sheet.ttl ≤ time :=
      Binary64.add_le_iff (by omega) (by omega) hpast (by omega) hrange
    rw [if_neg hzero]
    simp only [hzero, false_or]
    rw [Bool.eq_iff_iff, hle]
    simp

/-- As long as the entry has not expired, the stylesheet is opened. -/
theorem opened_entryOf {sheet : PutSheet} (hrange : InDoubleRange sheet.ttl) {now : Binary64}
    (hfresh : (entryOf sheet).isExpired now = false) :
    Envelope.opened now (entryOf sheet).text = .ok (some sheet.text) := by
  unfold entryOf at hfresh ⊢
  revert hfresh
  generalize Binary64.ofInt sheet.time = created
  intro hfresh
  have hstale : Envelope.isStale ⟨.str sheet.text, created, sheet.ttl⟩ now = false := hfresh
  rw [Envelope.opened_write sheet.text created now hrange, hstale]
  rfl

/-- A run whose store agrees with its history: under each key is the entry of the stylesheet that
was put last, or it has gone because that is no longer good. -/
structure Faithful (scope : String) (usual start : Int) (run : SheetRun) : Prop where
  /-- No time before the start. -/
  begun : start ≤ run.time
  /-- What was put last. -/
  sheets : ∀ key sheet, Happening.last key run.past = some sheet → Sound start run.time sheet
  /-- What the store holds. -/
  entries : ∀ key,
    run.store.find? ((cache scope usual).entryKey key) = (Happening.last key run.past).map entryOf ∨
      run.store.find? ((cache scope usual).entryKey key) = none ∧
        ∀ sheet, Happening.last key run.past = some sheet → ¬sheet.IsGood run.time

theorem faithful_start (start : Int) : Faithful scope usual start (.start start) :=
  ⟨Int.le_refl start, nofun, fun _ => .inl rfl⟩

/-- What can be put in a run that begins at a time. -/
def Fits (usual start : Int) : SheetEvent → Prop
  | .put _ _ ttl => 0 ≤ start ∨ (ttl.getD usual).natAbs < 2 ^ 53
  | _ => True

/-- A lifetime that is given or not, as the cache takes it. -/
theorem seconds_cache (ttl : Option Int) :
    (cache scope usual).seconds (ttl.map fun n => .num (.int n)) =
      .num (.int (ttl.getD usual)) := by
  cases ttl <;> rfl

/-- Putting a stylesheet succeeds exactly if its lifetime is not past every double. -/
theorem put_cache (now : Binary64) (store : MemoryStore) (key text : String) (ttl : Option Int) :
    ((cache scope usual).put key text (ttl.map fun n => .num (.int n))).onMemoryAt now store =
      if InDoubleRange (ttl.getD usual) then
        (.ok (), ⟨store.entries.put ((cache scope usual).entryKey key)
          ⟨Envelope.write text now (.num (.int (ttl.getD usual))), deadline now (ttl.getD usual)⟩⟩)
      else (.error .integerRange, store) := by
  have hlifetime : (cache scope usual).storeLifetime (ttl.map fun n => .num (.int n)) =
      lifetimeOf (ttl.getD usual) := by
    rw [SheetCache.storeLifetime, seconds_cache, lifetimeOf_eq]
  have hexpiry := expiryOf_lifetimeOf now (ttl.getD usual)
  rw [SheetCache.put_onMemoryAt, seconds_cache, hlifetime]
  by_cases hrange : InDoubleRange (ttl.getD usual)
  · rw [if_pos hrange] at hexpiry ⊢
    exact MemoryStore.answer_set_of_ok hexpiry _ _ _
  · rw [if_neg hrange] at hexpiry ⊢
    exact MemoryStore.answer_set_of_error hexpiry _ _ _

namespace Faithful

variable {start : Int} {run : SheetRun}

/-- Time that passes makes no stylesheet good again. -/
theorem wait (h : Faithful scope usual start run) (seconds : ℕ) :
    Faithful scope usual start ⟨run.time + seconds, run.store, run.past⟩ where
  begun := Int.le_trans h.begun (Int.le_add_of_nonneg_right (Int.natCast_nonneg seconds))
  sheets key sheet hlast := by
    obtain ⟨hbegun, hpast, hrange, hexact⟩ := h.sheets key sheet hlast
    exact ⟨hbegun, by dsimp only; omega, hrange, hexact⟩
  entries key := by
    refine (h.entries key).imp_right fun ⟨hnone, hgone⟩ => ⟨hnone, fun sheet hlast hgood => ?_⟩
    refine hgone sheet hlast ?_
    unfold PutSheet.IsGood at hgood ⊢
    dsimp only at hgood
    omega

/-- Changes to the store that leave the entries of stylesheets alone leave the history right. -/
theorem untouched (h : Faithful scope usual start run) {store : MemoryStore}
    (hstore : ∀ key, store.find? ((cache scope usual).entryKey key) =
      run.store.find? ((cache scope usual).entryKey key)) :
    Faithful scope usual start ⟨run.time, store, run.past⟩ where
  begun := h.begun
  sheets := h.sheets
  entries key := by
    dsimp only
    rw [hstore key]
    exact h.entries key

/-- A store without stylesheets is right once they were dropped. -/
theorem dropped (h : Faithful scope usual start run) {store : MemoryStore}
    (hstore : ∀ key, store.find? ((cache scope usual).entryKey key) = none) :
    Faithful scope usual start ⟨run.time, store, .dropped :: run.past⟩ where
  begun := h.begun
  sheets := nofun
  entries key := .inl (hstore key)

/-- Looking for a stylesheet forgets its entry when that is no longer good. -/
theorem get (h : Faithful scope usual start run) (hstart : -2 ^ 53 < start)
    (hnow : run.time < 2 ^ 53) (key : String) :
    Faithful scope usual start
      ⟨run.time, (run.store.get run.now ((cache scope usual).entryKey key)).2, run.past⟩ where
  begun := h.begun
  sheets := h.sheets
  entries other := by
    dsimp only
    rw [MemoryStore.find?_get]
    by_cases hkey : other = key
    · subst hkey
      rw [if_pos rfl]
      obtain hentry | ⟨hnone, hgone⟩ := h.entries other
      · cases hlast : Happening.last other run.past with
        | none =>
          rw [hentry, hlast]
          exact .inl rfl
        | some sheet =>
          have hexpired := isExpired_entryOf (h.sheets other sheet hlast) hstart hnow
          rw [hentry, hlast]
          by_cases hgood : sheet.IsGood run.time
          · refine .inl ?_
            simp [Option.filter, now, hexpired, hgood]
          · refine .inr ⟨?_, fun sheet' hsheet' => Option.some.inj hsheet' ▸ hgood⟩
            simp [Option.filter, now, hexpired, hgood]
      · exact .inr ⟨by rw [hnone]; rfl, hgone⟩
    · rw [if_neg fun hsame => hkey (SheetCache.entryKey_inj.mp hsame)]
      exact h.entries other

/-- A stylesheet that is put is the last one under its key. -/
theorem put (h : Faithful scope usual start run) {ttl : Int} (hrange : InDoubleRange ttl)
    (hexact : 0 ≤ start ∨ ttl.natAbs < 2 ^ 53) (key text : String) :
    Faithful scope usual start
      ⟨run.time, ⟨run.store.entries.put ((cache scope usual).entryKey key)
          (entryOf ⟨text, run.time, ttl⟩)⟩, .put key ⟨text, run.time, ttl⟩ :: run.past⟩ where
  begun := h.begun
  sheets other sheet hlast := by
    unfold Happening.last at hlast
    split_ifs at hlast with hkey
    · obtain rfl := Option.some.inj hlast
      exact ⟨h.begun, Int.le_refl _, hrange, hexact⟩
    · exact h.sheets other sheet hlast
  entries other := by
    have hput := run.store.find?_put ((cache scope usual).entryKey key)
      ((cache scope usual).entryKey other) (entryOf ⟨text, run.time, ttl⟩)
    dsimp only
    rw [hput, Happening.last]
    by_cases hkey : key = other
    · rw [if_pos hkey, if_pos (SheetCache.entryKey_inj.mpr hkey)]
      exact .inl rfl
    · rw [if_neg hkey, if_neg fun hsame => hkey (SheetCache.entryKey_inj.mp hsame)]
      exact h.entries other

/-- An event keeps the store in agreement with the history. -/
theorem step (h : Faithful scope usual start run) (hstart : -2 ^ 53 < start)
    (hnow : run.time < 2 ^ 53) {event : SheetEvent} (hfits : Fits usual start event) :
    Faithful scope usual start (run.step scope usual event) := by
  cases event with
  | wait seconds => exact h.wait seconds
  | put key text ttl =>
    simp only [SheetRun.step, put_cache]
    by_cases hrange : InDoubleRange (ttl.getD usual)
    · rw [if_pos hrange]
      exact h.put hrange hfits key text
    · rw [if_neg hrange]
      exact h.untouched fun _ => rfl
  | get key =>
    simp only [SheetRun.step, SheetCache.get_onMemoryAt]
    exact h.get hstart hnow key
  | clear =>
    simp only [SheetRun.step, SheetCache.clear_onMemoryAt]
    refine h.dropped fun key => ?_
    rw [MemoryStore.find?_erasePrefix, if_pos (SheetCache.startsWith_entryStem _ key)]
  | dropIfChanged digest =>
    have hdigest : ∀ key, (run.store.get run.now (cache scope usual).digestKey).2.find?
        ((cache scope usual).entryKey key) =
          run.store.find? ((cache scope usual).entryKey key) := by
      intro key
      rw [MemoryStore.find?_get, if_neg (SheetCache.digestKey_ne_own_entryKey _ key).symm]
    simp only [SheetRun.step, SheetCache.dropIfChanged_onMemoryAt]
    by_cases hsame : (run.store.get run.now (cache scope usual).digestKey).1 = some digest
    · rw [if_pos hsame]
      exact h.untouched hdigest
    · rw [if_neg hsame]
      refine h.dropped fun key => ?_
      rw [MemoryStore.find?_put, if_neg (SheetCache.digestKey_ne_own_entryKey _ key),
        MemoryStore.find?_erasePrefix, if_pos (SheetCache.startsWith_entryStem _ key)]

/-- What is got is what the history says is under the key. -/
theorem get_fst (h : Faithful scope usual start run) (hstart : -2 ^ 53 < start)
    (hnow : run.time < 2 ^ 53) (key : String) :
    (((cache scope usual).get key).onMemoryAt run.now run.store).1 = .ok (run.current key) := by
  rw [SheetCache.get_onMemoryAt, MemoryStore.get_fst]
  dsimp only
  unfold current
  cases hlast : Happening.last key run.past with
  | none =>
    have hnone : run.store.find? ((cache scope usual).entryKey key) = none := by
      obtain hentry | ⟨hnone, -⟩ := h.entries key
      · rw [hentry, hlast]
        rfl
      · exact hnone
    rw [hnone]
    rfl
  | some sheet =>
    have hsound := h.sheets key sheet hlast
    have hexpired := isExpired_entryOf hsound hstart hnow
    have hfilter : (run.store.find? ((cache scope usual).entryKey key)).filter
        (fun entry => !entry.isExpired run.now) =
          if sheet.IsGood run.time then some (entryOf sheet) else none := by
      obtain hentry | ⟨hnone, hgone⟩ := h.entries key
      · rw [hentry, hlast]
        simp [Option.filter, now, hexpired]
      · rw [hnone, if_neg (hgone sheet hlast)]
        rfl
    rw [hfilter]
    by_cases hgood : sheet.IsGood run.time
    · rw [if_pos hgood]
      simp only [Option.filter, hgood, decide_true, if_true, Option.map_some, Envelope.openedIfAny]
      exact opened_entryOf hsound.range (hexpired.trans (by simp [hgood]))
    · simp [Option.filter, hgood, Envelope.openedIfAny]

/-- No event takes time back. -/
theorem time_le_step (run : SheetRun) (event : SheetEvent) :
    run.time ≤ (run.step scope usual event).time := by
  cases event with
  | wait seconds => exact Int.le_add_of_nonneg_right (Int.natCast_nonneg seconds)
  | put key text ttl => unfold SheetRun.step; dsimp only; split <;> exact Int.le_refl _
  | get key => exact Int.le_refl _
  | clear => unfold SheetRun.step; dsimp only; split <;> exact Int.le_refl _
  | dropIfChanged digest => unfold SheetRun.step; dsimp only; split <;> exact Int.le_refl _

theorem time_le_after (events : List SheetEvent) (run : SheetRun) :
    run.time ≤ (run.after scope usual events).time := by
  induction events generalizing run with
  | nil => exact Int.le_refl _
  | cons event rest ih => exact Int.le_trans (time_le_step run event) (ih _)

/-- In every run the store agrees with the history, as long as the time stays below `2 ^ 53`. -/
theorem after (h : Faithful scope usual start run) (hstart : -2 ^ 53 < start)
    {events : List SheetEvent} (hfits : ∀ event ∈ events, Fits usual start event)
    (hend : (run.after scope usual events).time < 2 ^ 53) :
    Faithful scope usual start (run.after scope usual events) := by
  induction events generalizing run with
  | nil => exact h
  | cons event rest ih =>
    have hnow : run.time < 2 ^ 53 := Int.lt_of_le_of_lt (time_le_after _ run) hend
    exact ih (h.step hstart hnow (hfits event List.mem_cons_self))
      (fun other hother => hfits other (List.mem_cons_of_mem _ hother)) hend

end Faithful

end Faithful

/-- After any events, what is got under a key is the text that was put last under it, unless all were
dropped since or its lifetime is over; and putting a text succeeds unless its lifetime is past every
double. The clock stays between `-2 ^ 53` and `2 ^ 53`, and the lifetimes do so, too, if it begins
below zero. -/
theorem get_after (scope : String) (usual : Int) {start : Int} (hstart : -2 ^ 53 < start)
    {events : List SheetEvent} (hfits : ∀ event ∈ events, Fits usual start event)
    (hend : ((SheetRun.start start).after scope usual events).time < 2 ^ 53) (key : String) :
    let run := (SheetRun.start start).after scope usual events
    (((cache scope usual).get key).onMemoryAt run.now run.store).1 = .ok (run.current key) ∧
      ∀ (text : String) (ttl : Option Int),
        (((cache scope usual).put key text (ttl.map fun n => .num (.int n))).onMemoryAt
          run.now run.store).1 =
            if InDoubleRange (ttl.getD usual) then .ok () else .error .integerRange := by
  refine ⟨((faithful_start start).after hstart hfits hend).get_fst hstart hend key,
    fun text ttl => ?_⟩
  rw [put_cache]
  split_ifs <;> rfl

/-- Of two texts that were put under a key the second one is still got a second before its lifetime
is over. -/
theorem get_after_twice :
    let events : List SheetEvent :=
      [.put "k" "old" (some 0), .dropIfChanged "digest", .put "k" "new" (some 7), .wait 5,
        .put "k" "\"\n" none, .dropIfChanged "digest", .wait 59]
    let run := (SheetRun.start 1000).after "site" 60 events
    (∀ event ∈ events, Fits 60 1000 event) ∧ run.time < 2 ^ 53 ∧
      (((cache "site" 60).get "k").onMemoryAt run.now run.store).1 = .ok (some "\"\n") := by
  intro events run
  have hfits : ∀ event ∈ events, Fits 60 1000 event := by simp [events, Fits]
  have hend : run.time < 2 ^ 53 := by decide +kernel
  have hcurrent : run.current "k" = some "\"\n" := by decide +kernel
  exact ⟨hfits, hend, hcurrent ▸ (get_after "site" 60 (by decide) hfits hend "k").1⟩

/-- A lifetime that no double holds ends a second too early: it is rounded. -/
theorem not_get_after_rounded :
    let run := (SheetRun.start 0).after "site" 60
      [.put "k" "x" (some (2 ^ 53 + 1)), .wait (2 ^ 53)]
    run.current "k" = some "x" ∧
      (((cache "site" 60).get "k").onMemoryAt run.now run.store).1.toOption = some none := by
  decide +kernel

end SheetRun

end StyleTokens
