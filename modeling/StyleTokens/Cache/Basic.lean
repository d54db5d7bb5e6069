import StyleTokens.Cache.Envelope
import StyleTokens.Cache.Request

/-!
# The stylesheet cache

A cache keeps generated stylesheets in a store, under the keys of what they were made from. Several
projects share a store, each with a scope that its keys begin with. A stylesheet is good for a
time, and all of a project's are dropped when its preset source has changed. A store that fails
makes a cache miss, never a failure to generate.
-/

namespace StyleTokens

/-- A cache of a project. -/
structure SheetCache where
  /-- What the keys of the project begin with. -/
  scope : String
  /-- For how many seconds an entry is good unless it says otherwise; zero means for ever. -/
  defaultTtl : Scalar
  deriving DecidableEq

namespace SheetCache

/-- What the store's keys of stylesheets begin with. -/
def entryStem (cache : SheetCache) : String := cache.scope ++ ":css:"

/-- The store's key of a stylesheet. -/
def entryKey (cache : SheetCache) (key : String) : String := cache.entryStem ++ key

/-- The store's key of the digest of the preset source. -/
def digestKey (cache : SheetCache) : String := cache.scope ++ ":meta:source_hash"

/-- The text of an envelope, unless it is stale. -/
def textOf (key : String) (envelope : Envelope) : CacheAction (Option String) := do
  match envelope.value.text? with
  | none => return none
  | some text =>
    match ← CacheAction.ofExcept envelope.expiry with
    | none => return some text
    | some time =>
      let now ← CacheAction.clock
      if time.le (.float now) then
        CacheAction.note .debug ("Cache entry " ++ key ++ " is stale")
        return none
      else return some text

/-- The stylesheet under a key; none on a miss. -/
def get (cache : SheetCache) (key : String) : CacheAction (Option String) := do
  match ← CacheAction.call (.get (cache.entryKey key)) with
  | none => return none
  | some stored =>
    match ← CacheAction.ofExcept (Envelope.read stored) with
    | none =>
      CacheAction.note .debug ("Discarding corrupt cache entry " ++ key)
      return none
    | some envelope => textOf key envelope

/-- Puts a stylesheet under a key. -/
def put (cache : SheetCache) (key text : String) (ttl : Option Scalar) : CacheAction Unit := do
  let seconds := ttl.getD cache.defaultTtl
  let now ← CacheAction.clock
  CacheAction.call (.set (cache.entryKey key) (Envelope.write text now seconds)
    (if seconds.truthy then some seconds else none))

/-- Drops all stylesheets of the project; how many there were. -/
def clear (cache : SheetCache) : CacheAction Nat := do
  let count : Nat ← CacheAction.call (.deletePrefix cache.entryStem)
  CacheAction.note .info ("Cleared " ++ toString count ++ " cached stylesheet(s)")
  return count

/-- The digest of the preset source when it was last looked at. -/
def storedDigest (cache : SheetCache) : CacheAction (Option String) :=
  CacheAction.call (.get cache.digestKey)

/-- Drops all stylesheets and remembers a digest, if it is not the one that was stored. -/
def replaceDigest (cache : SheetCache) (digest : String) : CacheAction Bool := do
  let stored ← cache.storedDigest
  if stored = some digest then return false
  let _ ← CacheAction.call (.deletePrefix cache.entryStem)
  let _ ← CacheAction.call (.set cache.digestKey digest none)
  return true

/-- Drops all stylesheets if the preset source has changed; whether it had. A store that fails
leaves the question open, and the answer is no. -/
def dropIfChanged (cache : SheetCache) (digest : String) : CacheAction Bool := do
  let changed ← (cache.replaceDigest digest).orUnavailable fun report => do
    CacheAction.note .debug ("Source change check skipped: " ++ report.text)
    return false
  if changed then
    CacheAction.note .info "Preset source changed, stylesheet cache invalidated"
  return changed

/-- What looking a stylesheet up came to. -/
inductive Lookup where
  /-- The stylesheet was there. -/
  | hit (text : String)
  /-- It was not there. -/
  | miss
  /-- The store failed. -/
  | unavailable
  deriving DecidableEq, Repr

/-- Looks a stylesheet up; a failure of the store is noted. -/
def lookup (cache : SheetCache) (key : String) : CacheAction Lookup := do
  let found : CacheAction Lookup := do
    match ← cache.get key with
    | some text => return .hit text
    | none => return .miss
  found.orUnavailable fun report => do
    CacheAction.note .debug ("Cache get failed: " ++ report.text)
    return .unavailable

/-- Puts a stylesheet under a key if the store lets it; a failure of the store is noted. -/
def tryPut (cache : SheetCache) (key text : String) (ttl : Option Scalar) : CacheAction Unit :=
  (cache.put key text ttl).orUnavailable fun report =>
    CacheAction.note .debug ("Cache put failed: " ++ report.text)

/-- The stylesheet under a key, or else the generated one, which is put there; and whether it was
generated. -/
def getOrGenerate (cache : SheetCache) (key : String) (generate : Unit → Except Fault String)
    (ttl : Option Scalar) : CacheAction (String × Bool) := do
  match ← cache.lookup key with
  | .hit text => return (text, false)
  | .unavailable =>
    let text ← CacheAction.ofExcept (generate ())
    return (text, true)
  | .miss =>
    let text ← CacheAction.ofExcept (generate ())
    cache.tryPut key text ttl
    return (text, true)

end SheetCache

end StyleTokens
