import StyleTokens.Proofs.Cache.Encounter
import StyleTokens.Proofs.Outcome

/-!
# What the calls of a cache do

On a store in memory that is in reach every call of a cache comes to a result and a store that can be
told at once: looking a stylesheet up is looking under its key and reading what is found there,
putting one is putting an envelope.
-/

namespace StyleTokens

/-- The text of an envelope at a time; none if it is stale or holds no text. -/
def Envelope.textAt (now : Binary64) (envelope : Envelope) : Except Fault (Option String) :=
  match envelope.value.text? with
  | none => .ok none
  | some text => envelope.expiry.map fun
    | none => some text
    | some time => if time.le (.float now) then none else some text

/-- The text that a text of the store is the envelope of, at a time; none if it is no envelope, or
one whose text cannot be used. -/
def Envelope.opened (now : Binary64) (stored : String) : Except Fault (Option String) := do
  match ← Envelope.read stored with
  | none => return none
  | some envelope => envelope.textAt now

/-- The stylesheet that was found, if anything was. -/
def Envelope.openedIfAny (now : Binary64) : Option String → Except Fault (Option String)
  | none => .ok none
  | some stored => Envelope.opened now stored

namespace SheetCache

variable (cache : SheetCache) (now : Binary64) (store : MemoryStore)

/-- For how many seconds a stylesheet is good that is put with a lifetime or without one. -/
def seconds (ttl : Option Scalar) : Scalar := ttl.getD cache.defaultTtl

/-- That lifetime as the store is given it. -/
def storeLifetime (ttl : Option Scalar) : Option Scalar :=
  if (cache.seconds ttl).truthy then some (cache.seconds ttl) else none

theorem textOf_onMemoryAt (key : String) (envelope : Envelope) :
    (textOf key envelope).onMemoryAt now store = (envelope.textAt now, store) := by
  unfold textOf Envelope.textAt
  cases envelope.value.text? with
  | none => rfl
  | some text =>
    rw [CacheAction.onMemoryAt_bind, CacheAction.onMemoryAt_ofExcept]
    cases envelope.expiry with
    | error fault => rfl
    | ok expiry =>
      cases expiry with
      | none => rfl
      | some time =>
        simp only [CacheAction.onMemoryAt_bind, CacheAction.onMemoryAt_clock, Except.map]
        split <;> simp [CacheAction.onMemoryAt_bind]

/-- A stylesheet is looked up by its key, and what is found is opened. -/
theorem get_onMemoryAt (key : String) :
    (cache.get key).onMemoryAt now store =
      (Envelope.openedIfAny now (store.get now (cache.entryKey key)).1,
        (store.get now (cache.entryKey key)).2) := by
  unfold get
  rw [CacheAction.onMemoryAt_bind, CacheAction.onMemoryAt_call]
  simp only [MemoryStore.answer]
  generalize store.get now (cache.entryKey key) = found
  obtain ⟨stored?, after⟩ := found
  cases stored? with
  | none => rfl
  | some stored =>
    simp only [CacheAction.onMemoryAt_bind, CacheAction.onMemoryAt_ofExcept, Envelope.openedIfAny,
      Envelope.opened]
    cases Envelope.read stored with
    | error fault => rfl
    | ok envelope? =>
      cases envelope? with
      | none => rfl
      | some envelope => exact textOf_onMemoryAt now after key envelope

/-- A stylesheet is put as an envelope that shows its lifetime. -/
theorem put_onMemoryAt (key text : String) (ttl : Option Scalar) :
    (cache.put key text ttl).onMemoryAt now store =
      store.answer now (.set (cache.entryKey key) (Envelope.write text now (cache.seconds ttl))
        (cache.storeLifetime ttl)) := rfl

/-- All keys of stylesheets of the scope are forgotten. -/
theorem clear_onMemoryAt :
    cache.clear.onMemoryAt now store =
      (.ok (store.countPrefix cache.entryStem), store.erasePrefix cache.entryStem) := rfl

/-- The store when a digest was looked up in it. -/
theorem storedDigest_onMemoryAt :
    cache.storedDigest.onMemoryAt now store =
      (.ok (store.get now cache.digestKey).1, (store.get now cache.digestKey).2) := rfl

/-- A digest that is not the stored one takes its place, and all stylesheets of the scope are
forgotten. -/
theorem dropIfChanged_onMemoryAt (digest : String) :
    (cache.dropIfChanged digest).onMemoryAt now store =
      if (store.get now cache.digestKey).1 = some digest then
        (.ok false, (store.get now cache.digestKey).2)
      else
        (.ok true, ⟨((store.get now cache.digestKey).2.erasePrefix cache.entryStem).entries.put
          cache.digestKey ⟨digest, none⟩⟩) := by
  unfold dropIfChanged replaceDigest
  simp only [CacheAction.onMemoryAt_bind, CacheAction.onMemoryAt_orUnavailable,
    storedDigest_onMemoryAt]
  split_ifs with hsame
  · rfl
  · rfl

end SheetCache

end StyleTokens
