import StyleTokens.Proofs.Cache.Scope

/-!
# Calls that fail, and processes that stop

Every call of a store may fail. A removal that fails may already have removed some of the keys, and
any other call that fails has done nothing. A process may also stop between two requests, and what it
has done so far stays. An action meets one attempt after the other, and where they end, it stops.
-/

namespace StyleTokens

/-- How a call of a store fails. -/
structure Failure where
  /-- What is reported. -/
  report : Report
  /-- The keys that a removal has not come to. -/
  spares : String → Bool

/-- What a request of a cache meets. -/
structure Attempt where
  /-- The time that the clock shows. -/
  now : Binary64
  /-- How the store fails, if it does. -/
  failure : Option Failure

namespace MemoryStore

/-- The store without the keys that begin with a text, but for those that are spared. -/
def erasePart (store : MemoryStore) (start : String) (spares : String → Bool) : MemoryStore :=
  ⟨store.entries.filter fun entry => !entry.1.startsWith start || spares entry.1⟩

/-- The store after a call that failed. -/
def afterFailure (failure : Failure) : StoreRequest → MemoryStore → MemoryStore
  | .deletePrefix start, store => store.erasePart start failure.spares
  | _, store => store

/-- The reply to a request of a cache, and the store afterwards. -/
def attempt (met : Attempt) : (request : CacheRequest) → MemoryStore → request.Answer × MemoryStore
  | .store request, store =>
    match met.failure with
    | none => store.answer met.now request
    | some failure => (.error (.cacheUnavailable failure.report), store.afterFailure failure request)
  | .clock, store => (met.now, store)
  | .note _, store => ((), store)

theorem find?_erasePart (store : MemoryStore) (start : String) (spares : String → Bool)
    (key : String) :
    (store.erasePart start spares).find? key =
      if key.startsWith start = true ∧ spares key = false then none else store.find? key := by
  unfold erasePart find?
  rw [Keyed.find?_filter store.entries (fun name => !name.startsWith start || spares name)]
  cases hstart : key.startsWith start <;> cases hspared : spares key <;> simp

/-- A removal that spares nothing is a whole one. -/
theorem erasePart_none (store : MemoryStore) (start : String) :
    store.erasePart start (fun _ => false) = store.erasePrefix start := by
  simp [erasePart, erasePrefix]

/-- A removal that spares everything is none. -/
theorem erasePart_all (store : MemoryStore) (start : String) :
    store.erasePart start (fun _ => true) = store := by
  simp [erasePart]

/-- The reply to a call that does not fail. -/
theorem attempt_of_none {met : Attempt} (h : met.failure = none) (request : StoreRequest)
    (store : MemoryStore) :
    store.attempt met (.store request) = store.answer met.now request := by
  simp only [attempt, h]
  rfl

/-- The reply to a call that fails. -/
theorem attempt_of_some {met : Attempt} {failure : Failure} (h : met.failure = some failure)
    (request : StoreRequest) (store : MemoryStore) :
    store.attempt met (.store request) =
      (.error (.cacheUnavailable failure.report), store.afterFailure failure request) := by
  simp only [attempt, h]

end MemoryStore

/-- The result of a dialogue whose requests meet one attempt after the other, with the attempts that
are left, and the store afterwards. There is no result if the attempts end first. -/
def CacheDialogue.upTo {α : Type} :
    CacheDialogue α → List Attempt → MemoryStore → Option (α × List Attempt) × MemoryStore
  | .done result, attempts, store => (some (result, attempts), store)
  | .ask _ _, [], store => (none, store)
  | .ask request next, met :: later, store =>
    upTo (next (store.attempt met request).1) later (store.attempt met request).2

theorem CacheDialogue.upTo_bind {α β : Type} (dialogue : CacheDialogue α)
    (rest : α → CacheDialogue β) (attempts : List Attempt) (store : MemoryStore) :
    upTo (dialogue.bind rest) attempts store =
      match upTo dialogue attempts store with
      | (some (result, later), after) => upTo (rest result) later after
      | (none, after) => (none, after) := by
  induction dialogue generalizing attempts store with
  | done result => rfl
  | ask request next ih =>
    cases attempts with
    | nil => rfl
    | cons met later => exact ih _ later _

namespace CacheAction

variable {α β : Type}

/-- The outcome of an action whose requests meet one attempt after the other, if it comes to one,
with the attempts that are left, and the store afterwards. -/
def upTo (action : CacheAction α) (attempts : List Attempt) (store : MemoryStore) :
    Option (Except Fault α × List Attempt) × MemoryStore :=
  CacheDialogue.upTo (action : CacheDialogue (Except Fault α)) attempts store

section Steps

variable (attempts : List Attempt) (store : MemoryStore)

/-- An action goes on from where its first part ends, unless that stops or ends in a fault. -/
theorem upTo_bind (first : CacheAction α) (rest : α → CacheAction β) :
    (first >>= rest).upTo attempts store =
      match first.upTo attempts store with
      | (some (.ok a, later), after) => (rest a).upTo later after
      | (some (.error fault, later), after) => (some (.error fault, later), after)
      | (none, after) => (none, after) := by
  unfold upTo
  rw [show (first >>= rest : CacheAction β) = Dialogue.bind first _ from rfl,
    CacheDialogue.upTo_bind]
  generalize CacheDialogue.upTo (first : CacheDialogue (Except Fault α)) attempts store = reached
  obtain ⟨outcome, after⟩ := reached
  rcases outcome with _ | ⟨_ | _, later⟩ <;> rfl

/-- A report that the backend is out of reach is answered by the rescue. -/
theorem upTo_orUnavailable (action : CacheAction α) (rescue : Report → CacheAction α) :
    (action.orUnavailable rescue).upTo attempts store =
      match action.upTo attempts store with
      | (some (.error (.cacheUnavailable report), later), after) => (rescue report).upTo later after
      | reached => reached := by
  unfold upTo orUnavailable
  rw [show (tryCatch action _ : CacheAction α) = Dialogue.bind action _ from rfl,
    CacheDialogue.upTo_bind]
  generalize CacheDialogue.upTo (action : CacheDialogue (Except Fault α)) attempts store = reached
  obtain ⟨outcome, after⟩ := reached
  rcases outcome with _ | ⟨fault | _, later⟩
  · rfl
  · cases fault <;> rfl
  · rfl

end Steps

end CacheAction

namespace SheetCache

variable {cache : SheetCache} {store : MemoryStore}

/-- The digest of the preset source that a store holds. -/
def digestIn (cache : SheetCache) (store : MemoryStore) : Option String :=
  (store.find? cache.digestKey).map (·.text)

/-- The digest in a store is there for ever. -/
def KeepsDigest (cache : SheetCache) (store : MemoryStore) : Prop :=
  ∀ entry, store.find? cache.digestKey = some entry → entry.expires = none

/-- Looking a digest up that is there for ever finds it, and changes nothing. -/
theorem KeepsDigest.get_digestKey (h : cache.KeepsDigest store) (now : Binary64) :
    store.get now cache.digestKey = (cache.digestIn store, store) := by
  unfold digestIn
  unfold KeepsDigest at h
  unfold MemoryStore.get
  rw [show store.entries.find? cache.digestKey = store.find? cache.digestKey from rfl]
  cases hentry : store.find? cache.digestKey with
  | none => rfl
  | some entry =>
    have hexpired : entry.isExpired now = false := by
      rw [MemoryEntry.isExpired, h entry hentry]
    simp [hexpired]

/-- Putting a stylesheet leaves the store as it is, or puts an envelope under its key. -/
theorem put_upTo (cache : SheetCache) (store : MemoryStore) (key text : String)
    (ttl : Option Scalar) (attempts : List Attempt) :
    ((cache.put key text ttl).upTo attempts store).2 = store ∨
      ∃ now expires, ((cache.put key text ttl).upTo attempts store).2 =
        ⟨store.entries.put (cache.entryKey key)
          ⟨Envelope.write text now (cache.seconds ttl), expires⟩⟩ := by
  cases attempts with
  | nil => exact .inl rfl
  | cons first later =>
    cases later with
    | nil => exact .inl rfl
    | cons second later =>
      have hput : ((cache.put key text ttl).upTo (first :: second :: later) store).2 =
          (store.attempt second (.store (.set (cache.entryKey key)
            (Envelope.write text first.now (cache.seconds ttl)) (cache.storeLifetime ttl)))).2 := rfl
      rw [hput]
      cases hfailure : second.failure with
      | some failure =>
        rw [MemoryStore.attempt_of_some hfailure]
        exact .inl rfl
      | none =>
        rw [MemoryStore.attempt_of_none hfailure]
        cases hexpires : expiryOf second.now (cache.storeLifetime ttl) with
        | error fault =>
          rw [MemoryStore.answer_set_of_error hexpires]
          exact .inl rfl
        | ok expires =>
          rw [MemoryStore.answer_set_of_ok hexpires]
          exact .inr ⟨first.now, expires, rfl⟩

/-- Dropping all stylesheets drops all or some of them, or none. -/
theorem clear_upTo (cache : SheetCache) (store : MemoryStore) (attempts : List Attempt) :
    ∃ spares, (cache.clear.upTo attempts store).2 = store.erasePart cache.entryStem spares := by
  cases attempts with
  | nil => exact ⟨fun _ => true, (store.erasePart_all _).symm⟩
  | cons met later =>
    obtain ⟨now, failure⟩ := met
    cases failure with
    | some failure => exact ⟨failure.spares, rfl⟩
    | none =>
      refine ⟨fun _ => false, ?_⟩
      rw [MemoryStore.erasePart_none]
      cases later <;> rfl

/-- The three calls succeed that replace a digest by another one. -/
def Replaces (cache : SheetCache) (digest : String) (attempts : List Attempt)
    (store : MemoryStore) : Prop :=
  cache.digestIn store ≠ some digest ∧ ∃ first second third later,
    attempts = first :: second :: third :: later ∧
      first.failure = none ∧ second.failure = none ∧ third.failure = none

/-- Calls that succeed still do if more is met later. -/
theorem Replaces.extend {digest : String} {cut attempts : List Attempt}
    (h : cache.Replaces digest cut store) (hinitial : cut <+: attempts) :
    cache.Replaces digest attempts store := by
  obtain ⟨hne, first, second, third, later, rfl, hcalls⟩ := h
  obtain ⟨more, rfl⟩ := hinitial
  exact ⟨hne, first, second, third, later ++ more, rfl, hcalls⟩

/-- The store after a digest was replaced. -/
def replaced (cache : SheetCache) (digest : String) (store : MemoryStore) : MemoryStore :=
  ⟨(store.erasePrefix cache.entryStem).entries.put cache.digestKey ⟨digest, none⟩⟩

/-- The stored digest is looked up by a call that may fail. -/
theorem storedDigest_upTo (h : cache.KeepsDigest store) (met : Attempt) (later : List Attempt) :
    cache.storedDigest.upTo (met :: later) store =
      (some (match met.failure with
        | none => .ok (cache.digestIn store)
        | some failure => .error (.cacheUnavailable failure.report), later), store) := by
  have hcall : cache.storedDigest.upTo (met :: later) store =
      (some ((store.attempt met (.store (.get cache.digestKey))).1, later),
        (store.attempt met (.store (.get cache.digestKey))).2) := rfl
  rw [hcall]
  cases hfailure : met.failure with
  | some failure =>
    rw [MemoryStore.attempt_of_some hfailure]
    rfl
  | none =>
    have hfound : store.answer met.now (.get cache.digestKey) =
        (.ok (cache.digestIn store), store) := by
      simp only [MemoryStore.answer, h.get_digestKey]
    rw [MemoryStore.attempt_of_none hfailure, hfound]
    rfl

/-- A digest is replaced by another one if the calls for it succeed. -/
theorem replaceDigest_of_replaces (hstore : cache.KeepsDigest store) {digest : String}
    {attempts : List Attempt} (h : cache.Replaces digest attempts store) :
    ∃ later, (cache.replaceDigest digest).upTo attempts store =
      (some (.ok true, later), cache.replaced digest store) := by
  obtain ⟨hne, first, ⟨now, _⟩, ⟨now', _⟩, later, rfl, hfirst, rfl, rfl⟩ := h
  refine ⟨later, ?_⟩
  unfold replaceDigest
  rw [CacheAction.upTo_bind, storedDigest_upTo hstore, hfirst]
  dsimp only
  rw [if_neg hne]
  rfl

/-- An action did not come to replacing anything: it stopped, found the digest, or was told of a
failure. -/
def IsUndone : Option (Except Fault Bool × List Attempt) → Prop
  | none => True
  | some (outcome, _) => outcome = .ok false ∨ ∃ report, outcome = .error (.cacheUnavailable report)

/-- If one of the calls fails that replace a digest, or the process stops before the last of them,
no more than stylesheets is gone; and nothing is if the digest is the stored one. -/
theorem replaceDigest_of_not_replaces (hstore : cache.KeepsDigest store) {digest : String}
    {attempts : List Attempt} (h : ¬cache.Replaces digest attempts store) :
    IsUndone ((cache.replaceDigest digest).upTo attempts store).1 ∧
      (∃ spares, ((cache.replaceDigest digest).upTo attempts store).2 =
        store.erasePart cache.entryStem spares) ∧
      (cache.digestIn store = some digest →
        ((cache.replaceDigest digest).upTo attempts store).2 = store) := by
  have hall := store.erasePart_all cache.entryStem
  cases attempts with
  | nil => exact ⟨trivial, ⟨_, hall.symm⟩, fun _ => rfl⟩
  | cons first later =>
    unfold replaceDigest
    rw [CacheAction.upTo_bind, storedDigest_upTo hstore]
    cases hfirst : first.failure with
    | some failure => exact ⟨.inr ⟨_, rfl⟩, ⟨_, hall.symm⟩, fun _ => rfl⟩
    | none =>
      dsimp only
      by_cases hsame : cache.digestIn store = some digest
      · rw [if_pos hsame]
        exact ⟨.inl rfl, ⟨_, hall.symm⟩, fun _ => rfl⟩
      · rw [if_neg hsame]
        have hnone := store.erasePart_none cache.entryStem
        -- From here on stylesheets are dropped, all or some of them.
        rcases later with _ | ⟨⟨now, _ | failure⟩, _ | ⟨⟨now', _ | failure'⟩, later⟩⟩
        · exact ⟨trivial, ⟨_, hall.symm⟩, fun heq => absurd heq hsame⟩
        · exact ⟨trivial, ⟨_, hnone.symm⟩, fun heq => absurd heq hsame⟩
        · exact absurd ⟨hsame, _, _, _, _, rfl, hfirst, rfl, rfl⟩ h
        · exact ⟨.inr ⟨_, rfl⟩, ⟨_, hnone.symm⟩, fun heq => absurd heq hsame⟩
        · exact ⟨.inr ⟨_, rfl⟩, ⟨failure.spares, rfl⟩, fun heq => absurd heq hsame⟩
        · exact ⟨.inr ⟨_, rfl⟩, ⟨failure.spares, rfl⟩, fun heq => absurd heq hsame⟩
        · exact ⟨.inr ⟨_, rfl⟩, ⟨failure.spares, rfl⟩, fun heq => absurd heq hsame⟩

/-- Dropping all stylesheets if the preset source has changed is right if the digest is replaced. -/
theorem dropIfChanged_of_replaces (hstore : cache.KeepsDigest store) {digest : String}
    {attempts : List Attempt} (h : cache.Replaces digest attempts store) :
    ((cache.dropIfChanged digest).upTo attempts store).2 = cache.replaced digest store ∧
      ∀ outcome later, ((cache.dropIfChanged digest).upTo attempts store).1 = some (outcome, later) →
        outcome = .ok true := by
  obtain ⟨rest, hreplace⟩ := replaceDigest_of_replaces hstore h
  unfold dropIfChanged
  rw [CacheAction.upTo_bind, CacheAction.upTo_orUnavailable, hreplace]
  cases rest with
  | nil => exact ⟨rfl, fun outcome later hnone => by cases hnone⟩
  | cons met later =>
    refine ⟨rfl, fun outcome later hsome => ?_⟩
    cases hsome
    rfl

/-- If it is not, no more than stylesheets is gone, and the answer is no. -/
theorem dropIfChanged_of_not_replaces (hstore : cache.KeepsDigest store) {digest : String}
    {attempts : List Attempt} (h : ¬cache.Replaces digest attempts store) :
    (∃ spares, ((cache.dropIfChanged digest).upTo attempts store).2 =
        store.erasePart cache.entryStem spares) ∧
      (cache.digestIn store = some digest →
        ((cache.dropIfChanged digest).upTo attempts store).2 = store) ∧
      ∀ outcome later, ((cache.dropIfChanged digest).upTo attempts store).1 = some (outcome, later) →
        outcome = .ok false := by
  obtain ⟨hundone, hafter, hsame⟩ := replaceDigest_of_not_replaces hstore h
  unfold dropIfChanged
  rw [CacheAction.upTo_bind, CacheAction.upTo_orUnavailable]
  generalize (cache.replaceDigest digest).upTo attempts store = reached at *
  obtain ⟨outcome?, after⟩ := reached
  rcases outcome? with _ | ⟨outcome, rest⟩
  · exact ⟨hafter, hsame, fun outcome later hnone => by cases hnone⟩
  · obtain rfl | ⟨report, rfl⟩ := hundone
    · refine ⟨hafter, hsame, fun outcome later hsome => ?_⟩
      cases hsome
      rfl
    · cases rest with
      | nil => exact ⟨hafter, hsame, fun outcome later hnone => by cases hnone⟩
      | cons met rest =>
        refine ⟨hafter, hsame, fun outcome later hsome => ?_⟩
        cases hsome
        rfl

/-- Four requests are enough to come to an outcome. -/
theorem isSome_dropIfChanged (hstore : cache.KeepsDigest store) (digest : String)
    {attempts : List Attempt} (h : 4 ≤ attempts.length) :
    ((cache.dropIfChanged digest).upTo attempts store).1.isSome = true := by
  rcases attempts with _ | ⟨first, _ | ⟨⟨now, second⟩, _ | ⟨⟨now', third⟩, _ | ⟨fourth, later⟩⟩⟩⟩
  case cons.cons.cons.cons =>
    unfold dropIfChanged replaceDigest
    rw [CacheAction.upTo_bind, CacheAction.upTo_orUnavailable, CacheAction.upTo_bind,
      storedDigest_upTo hstore]
    cases first.failure with
    | some failure => rfl
    | none =>
      dsimp only
      split_ifs with hsame
      · rfl
      · cases second <;> cases third <;> rfl
  all_goals
    simp only [List.length_cons, List.length_nil] at h
    omega

end SheetCache

end StyleTokens
