import Mathlib.Data.List.Induction
import StyleTokens.Proofs.Cache.Stopping

/-!
# Stylesheets of an earlier preset source

Stylesheets are put and dropped on a store whose calls may fail, by processes that may stop between
two requests. They are dropped before the digest of a new source is stored, so none of an earlier
source outlives the change: whatever stylesheet is there was put since the stored digest was last
another one.
-/

namespace StyleTokens

/-- A call of a cache that changes what it keeps. -/
inductive SheetChange where
  /-- To put a stylesheet. -/
  | put (key text : String) (ttl : Option Scalar)
  /-- To drop all stylesheets. -/
  | clear
  /-- To drop them if the preset source has changed. -/
  | dropIfChanged (digest : String)

/-- Calls of a cache one after the other, each with what its requests meet. -/
abbrev ChangeRun := List (SheetChange × List Attempt)

/-- A run as it was at some moment: calls are over, and perhaps one is under way. -/
inductive IsMoment : ChangeRun → ChangeRun → Prop where
  /-- Nothing has been done yet. -/
  | start (run : ChangeRun) : IsMoment [] run
  /-- The first call has met some of its attempts. -/
  | first {cut attempts : List Attempt} (call : SheetChange) (hcut : cut <+: attempts)
      (later : ChangeRun) : IsMoment [(call, cut)] ((call, attempts) :: later)
  /-- The first call is over. -/
  | next {moment run : ChangeRun} (step : SheetChange × List Attempt) (h : IsMoment moment run) :
      IsMoment (step :: moment) (step :: run)

/-- A moment of a run with one more call is one of the run, or one of that call. -/
theorem IsMoment.of_append {moment run : ChangeRun} {call : SheetChange} {attempts : List Attempt}
    (h : IsMoment moment (run ++ [(call, attempts)])) :
    IsMoment moment run ∨ ∃ cut, cut <+: attempts ∧ moment = run ++ [(call, cut)] := by
  induction run generalizing moment with
  | nil =>
    cases h with
    | start => exact .inl (.start [])
    | first _ hcut => exact .inr ⟨_, hcut, rfl⟩
    | next _ h =>
      cases h
      exact .inr ⟨attempts, List.prefix_rfl, rfl⟩
  | cons step run ih =>
    cases h with
    | start => exact .inl (.start _)
    | first call hcut => exact .inl (.first call hcut run)
    | next _ h =>
      obtain hearlier | ⟨cut, hcut, rfl⟩ := ih h
      · exact .inl (.next step hearlier)
      · exact .inr ⟨cut, hcut, rfl⟩

namespace SheetCache

variable (cache : SheetCache)

/-- The store where a call ends or stops. -/
def left (call : SheetChange) (attempts : List Attempt) (store : MemoryStore) : MemoryStore :=
  match call with
  | .put key text ttl => ((cache.put key text ttl).upTo attempts store).2
  | .clear => (cache.clear.upTo attempts store).2
  | .dropIfChanged digest => ((cache.dropIfChanged digest).upTo attempts store).2

/-- The store where a run ends that begins with an empty one. -/
def reached (run : ChangeRun) : MemoryStore :=
  run.foldl (fun store step => cache.left step.1 step.2 store) .empty

@[simp] theorem reached_append (run : ChangeRun) (call : SheetChange) (attempts : List Attempt) :
    cache.reached (run ++ [(call, attempts)]) = cache.left call attempts (cache.reached run) := by
  unfold reached
  rw [List.foldl_append]
  rfl

variable {cache} {store : MemoryStore}

/-- No digest is forgotten with the stylesheets. -/
theorem startsWith_digestKey : cache.digestKey.startsWith cache.entryStem = false := by
  rw [Bool.eq_false_iff, ne_eq, String.startsWith_string_iff]
  rintro ⟨rest, hrest⟩
  refine cache.digestKey_ne_own_entryKey (String.ofList rest) (String.toList_injective ?_)
  rw [← hrest, entryKey, String.toList_append, String.toList_ofList]

/-- A call has left the digest alone, and whatever stylesheets are there were there before or have
been put by it. -/
structure LeavesDigest (cache : SheetCache) (call : SheetChange) (store after : MemoryStore) :
    Prop where
  /-- The digest is the same. -/
  digest : after.find? cache.digestKey = store.find? cache.digestKey
  /-- Where the stylesheets come from. -/
  sheets : ∀ key entry, after.find? (cache.entryKey key) = some entry →
    store.find? (cache.entryKey key) = some entry ∨
      ∃ text ttl now, call = .put key text ttl ∧
        entry.text = Envelope.write text now (cache.seconds ttl)

/-- Dropping stylesheets leaves the digest alone. -/
theorem leavesDigest_erasePart (call : SheetChange) (store : MemoryStore) (spares : String → Bool) :
    cache.LeavesDigest call store (store.erasePart cache.entryStem spares) where
  digest := by
    rw [MemoryStore.find?_erasePart, if_neg]
    rw [startsWith_digestKey]
    simp
  sheets := by
    intro key entry hentry
    rw [MemoryStore.find?_erasePart] at hentry
    split_ifs at hentry
    exact .inl hentry

/-- Putting a stylesheet leaves the digest alone. -/
theorem leavesDigest_put (key text : String) (ttl : Option Scalar) (attempts : List Attempt)
    (store : MemoryStore) :
    cache.LeavesDigest (.put key text ttl) store (cache.left (.put key text ttl) attempts store) := by
  unfold left
  dsimp only
  obtain hsame | ⟨now, expires, hput⟩ := cache.put_upTo store key text ttl attempts
  · rw [hsame]
    exact ⟨rfl, fun key entry hentry => .inl hentry⟩
  · rw [hput]
    constructor
    · rw [MemoryStore.find?_put, if_neg (cache.digestKey_ne_own_entryKey key).symm]
    · intro other entry hentry
      rw [MemoryStore.find?_put] at hentry
      split_ifs at hentry with hkey
      · obtain rfl := entryKey_inj.mp hkey
        cases hentry
        exact .inr ⟨text, ttl, now, rfl, rfl⟩
      · exact .inl hentry

/-- The digest that was stored in place of another is there for ever, and no stylesheet is left. -/
theorem find?_replaced (cache : SheetCache) (digest : String) (store : MemoryStore) :
    (cache.replaced digest store).find? cache.digestKey = some ⟨digest, none⟩ ∧
      ∀ key, (cache.replaced digest store).find? (cache.entryKey key) = none := by
  unfold replaced
  constructor
  · rw [MemoryStore.find?_put, if_pos rfl]
  · intro key
    have herased := store.find?_erasePrefix cache.entryStem (cache.entryKey key)
    rw [if_pos (cache.startsWith_entryStem key)] at herased
    rw [MemoryStore.find?_put, if_neg (cache.digestKey_ne_own_entryKey key)]
    exact herased

/-- A call leaves the digest alone at every moment, or it replaces it, and no stylesheet is left. -/
theorem left_cases (hstore : cache.KeepsDigest store) (call : SheetChange)
    (attempts : List Attempt) :
    (∀ cut, cut <+: attempts → cache.LeavesDigest call store (cache.left call cut store)) ∨
      ∃ digest, call = .dropIfChanged digest ∧ cache.Replaces digest attempts store ∧
        cache.left call attempts store = cache.replaced digest store := by
  cases call with
  | put key text ttl => exact .inl fun cut _ => leavesDigest_put key text ttl cut store
  | clear =>
    refine .inl fun cut _ => ?_
    obtain ⟨spares, hspares⟩ := cache.clear_upTo store cut
    unfold left
    dsimp only
    rw [hspares]
    exact leavesDigest_erasePart _ store spares
  | dropIfChanged digest =>
    by_cases hreplaces : cache.Replaces digest attempts store
    · exact .inr ⟨digest, rfl, hreplaces, (dropIfChanged_of_replaces hstore hreplaces).1⟩
    · refine .inl fun cut hcut => ?_
      have hnot : ¬cache.Replaces digest cut store := fun h => hreplaces (h.extend hcut)
      obtain ⟨spares, hspares⟩ := (dropIfChanged_of_not_replaces hstore hnot).1
      unfold left
      dsimp only
      rw [hspares]
      exact leavesDigest_erasePart _ store spares

/-- The digest is there for ever after every call. -/
theorem keepsDigest_left (hstore : cache.KeepsDigest store) (call : SheetChange)
    (attempts : List Attempt) : cache.KeepsDigest (cache.left call attempts store) := by
  intro entry hentry
  obtain hleaves | ⟨digest, -, -, hreplaced⟩ := left_cases hstore call attempts
  · exact hstore entry ((hleaves attempts List.prefix_rfl).digest.symm.trans hentry)
  · rw [hreplaced, (cache.find?_replaced digest store).1] at hentry
    cases hentry
    rfl

/-- The digest is there for ever in every run. -/
theorem keepsDigest_reached (cache : SheetCache) (run : ChangeRun) :
    cache.KeepsDigest (cache.reached run) := by
  induction run using List.reverseRecOn with
  | nil => exact fun entry hentry => by cases hentry
  | append_singleton run step ih =>
    rw [cache.reached_append]
    exact keepsDigest_left ih step.1 step.2

/-- The digest in the store of a run is the one that the cache finds at any time. -/
theorem storedDigest_reached (cache : SheetCache) (run : ChangeRun) (now : Binary64) :
    cache.storedDigest.onMemoryAt now (cache.reached run) =
      (.ok (cache.digestIn (cache.reached run)), cache.reached run) := by
  rw [storedDigest_onMemoryAt, (cache.keepsDigest_reached run).get_digestKey]

/-- An entry was put under a key by a call of a run, and from the moment before that call to the end
of the run the stored digest has been the same. -/
def IsPutSince (cache : SheetCache) (run : ChangeRun) (key : String) (entry : MemoryEntry) : Prop :=
  ∃ before text ttl attempts later,
    run = before ++ (.put key text ttl, attempts) :: later ∧
    (∃ now, entry.text = Envelope.write text now (cache.seconds ttl)) ∧
    (cache.reached (before ++ [(.put key text ttl, attempts)])).find? (cache.entryKey key) =
      some entry ∧
    ∀ moment, IsMoment moment ((.put key text ttl, attempts) :: later) →
      cache.digestIn (cache.reached (before ++ moment)) = cache.digestIn (cache.reached run)

/-- While the digest is left alone, it is the same at every moment. -/
theorem LeavesDigest.digestIn_eq {call : SheetChange} {after : MemoryStore}
    (h : cache.LeavesDigest call store after) : cache.digestIn after = cache.digestIn store := by
  unfold digestIn
  rw [h.digest]

/-- Every stylesheet of a run was put since the stored digest was last another one. -/
theorem isPutSince (cache : SheetCache) (run : ChangeRun) {key : String} {entry : MemoryEntry}
    (h : (cache.reached run).find? (cache.entryKey key) = some entry) :
    cache.IsPutSince run key entry := by
  induction run using List.reverseRecOn with
  | nil => cases h
  | append_singleton run step ih =>
    obtain ⟨call, attempts⟩ := step
    have hend := h
    rw [reached_append] at h
    obtain hleaves | ⟨digest, -, -, hreplaced⟩ :=
      left_cases (cache.keepsDigest_reached run) call attempts
    · have hcut (cut : List Attempt) (hinitial : cut <+: attempts) :
          cache.digestIn (cache.reached (run ++ [(call, cut)])) =
            cache.digestIn (cache.reached run) := by
        rw [reached_append]
        exact (hleaves cut hinitial).digestIn_eq
      have hlast := hcut attempts List.prefix_rfl
      obtain hearlier | ⟨text, ttl, now, rfl, hwritten⟩ :=
        (hleaves attempts List.prefix_rfl).sheets key entry h
      · obtain ⟨before, text, ttl, met, later, rfl, hwritten, hput, hsame⟩ := ih hearlier
        refine ⟨before, text, ttl, met, later ++ [(call, attempts)], by simp, hwritten, hput, ?_⟩
        intro moment hmoment
        rw [← List.cons_append] at hmoment
        obtain hbefore | ⟨cut, hinitial, rfl⟩ := hmoment.of_append
        · rw [hsame moment hbefore, hlast]
        · rw [← List.append_assoc, hcut cut hinitial, hlast]
      · refine ⟨run, text, ttl, attempts, [], rfl, ⟨now, hwritten⟩, hend, ?_⟩
        intro moment hmoment
        obtain hbefore | ⟨cut, hinitial, rfl⟩ := @IsMoment.of_append _ [] _ _ hmoment
        · cases hbefore
          rw [List.append_nil, hlast]
        · rw [List.nil_append, hcut cut hinitial, hlast]
    · rw [hreplaced, (cache.find?_replaced digest _).2] at h
      cases h

/-- Whether dropping all stylesheets if the source has changed comes to yes: the digest that is stored
was another one before, is the given one now, and no stylesheet is left. -/
theorem dropIfChanged_eq_true_iff (hstore : cache.KeepsDigest store) (digest : String)
    (attempts : List Attempt) {outcome : Except Fault Bool} {later : List Attempt}
    (h : ((cache.dropIfChanged digest).upTo attempts store).1 = some (outcome, later)) :
    ∃ changed, outcome = .ok changed ∧ (changed = true ↔
      cache.digestIn store ≠ some digest ∧
      cache.digestIn (cache.left (.dropIfChanged digest) attempts store) = some digest ∧
      ∀ key, (cache.left (.dropIfChanged digest) attempts store).find? (cache.entryKey key) = none) := by
  by_cases hreplaces : cache.Replaces digest attempts store
  · obtain ⟨hleft, houtcome⟩ := dropIfChanged_of_replaces hstore hreplaces
    obtain ⟨hdigest, hsheets⟩ := cache.find?_replaced digest store
    refine ⟨true, houtcome outcome later h, iff_of_true rfl ⟨hreplaces.1, ?_⟩⟩
    unfold left digestIn
    dsimp only
    rw [hleft, hdigest]
    exact ⟨rfl, hsheets⟩
  · obtain ⟨⟨spares, hleft⟩, -, houtcome⟩ := dropIfChanged_of_not_replaces hstore hreplaces
    refine ⟨false, houtcome outcome later h, iff_of_false (by simp) ?_⟩
    rintro ⟨hne, hsame, -⟩
    unfold left at hsame
    dsimp only at hsame
    rw [hleft, (leavesDigest_erasePart .clear store spares).digestIn_eq] at hsame
    exact hne hsame

/-- Dropping stylesheets when the preset source changes is safe at every moment of every run, and
changes nothing when it has not changed: whatever stylesheet is there was put since the stored digest
was last another one; the answer is yes exactly if the digest was replaced and no stylesheet is left;
and with the stored digest nothing happens. -/
theorem dropIfChanged_safe (cache : SheetCache) (run : ChangeRun) :
    (∀ key entry, (cache.reached run).find? (cache.entryKey key) = some entry →
      cache.IsPutSince run key entry) ∧
    (∀ digest attempts,
      (4 ≤ attempts.length →
        ((cache.dropIfChanged digest).upTo attempts (cache.reached run)).1.isSome = true) ∧
      ∀ outcome later,
        ((cache.dropIfChanged digest).upTo attempts (cache.reached run)).1 = some (outcome, later) →
        ∃ changed, outcome = .ok changed ∧ (changed = true ↔
          cache.digestIn (cache.reached run) ≠ some digest ∧
          cache.digestIn (cache.reached (run ++ [(.dropIfChanged digest, attempts)])) =
            some digest ∧
          ∀ key, (cache.reached (run ++ [(.dropIfChanged digest, attempts)])).find?
            (cache.entryKey key) = none)) ∧
    ∀ digest attempts, cache.digestIn (cache.reached run) = some digest →
      cache.reached (run ++ [(.dropIfChanged digest, attempts)]) = cache.reached run := by
  have hstore := cache.keepsDigest_reached run
  refine ⟨fun key entry => cache.isPutSince run, fun digest attempts => ⟨?_, ?_⟩, ?_⟩
  · exact isSome_dropIfChanged hstore digest
  · intro outcome later h
    rw [reached_append]
    exact dropIfChanged_eq_true_iff hstore digest attempts h
  · intro digest attempts hsame
    have hnot : ¬cache.Replaces digest attempts (cache.reached run) := fun h => h.1 hsame
    rw [reached_append]
    exact (dropIfChanged_of_not_replaces hstore hnot).2.1 hsame

/-- A change of the source is noticed, but the process stops when a removal fails that has come to no
key. The stylesheet that is still there is one of the stored digest. -/
theorem dropIfChanged_safe_interrupted :
    IsPutSince ⟨"site", .num (.int 0)⟩
      ([(.dropIfChanged "old", [⟨.zero, none⟩, ⟨.zero, none⟩, ⟨.zero, none⟩]),
          (.put "card" "text" none, [⟨.zero, none⟩, ⟨.zero, none⟩])] ++
        [(.dropIfChanged "new", [⟨.zero, none⟩, ⟨.zero, some ⟨⟨none, "down"⟩, fun _ => true⟩⟩])])
      "card" ⟨Envelope.write "text" .zero (.num (.int 0)), none⟩ := by
  refine (dropIfChanged_safe _ _).1 _ _ ?_
  have hput : SheetCache.reached ⟨"site", .num (.int 0)⟩
      [(.dropIfChanged "old", [⟨.zero, none⟩, ⟨.zero, none⟩, ⟨.zero, none⟩]),
        (.put "card" "text" none, [⟨.zero, none⟩, ⟨.zero, none⟩])] =
      ⟨[("site:meta:source_hash", ⟨"old", none⟩),
        ("site:css:card", ⟨Envelope.write "text" .zero (.num (.int 0)), none⟩)]⟩ := rfl
  have hspared (store : MemoryStore) := store.erasePart_all "site:css:"
  rw [reached_append, hput]
  exact (congrArg (MemoryStore.find? · "site:css:card") (hspared _)).trans rfl

end SheetCache

end StyleTokens
