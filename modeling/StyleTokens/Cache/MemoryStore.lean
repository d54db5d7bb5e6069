import StyleTokens.Cache.Request
import StyleTokens.Keyed

/-!
# The store in memory

A store that keeps its entries as a list. An entry that has expired stays until something asks for
it.
-/

namespace StyleTokens

/-- An entry of the store. -/
structure MemoryEntry where
  /-- The text. -/
  text : String
  /-- The time from which on the entry is forgotten, if there is one. -/
  expires : Option Number
  deriving DecidableEq

/-- Whether an entry is forgotten at a time. -/
def MemoryEntry.isExpired (entry : MemoryEntry) (now : Binary64) : Bool :=
  match entry.expires with
  | some time => time.le (.float now)
  | none => false

/-- The time from which on an entry is forgotten that is put now. -/
def expiryOf (now : Binary64) (ttl : Option Scalar) : Except Fault (Option Number) :=
  match ttl.filter Scalar.truthy with
  | none => .ok none
  | some lifetime =>
    match lifetime.number? with
    | none => .error (.noSum .float lifetime.kind)
    | some seconds =>
      match (Number.float now).add? seconds with
      | some time => .ok (some time)
      | none => .error .integerRange

/-- Entries by key, in the order in which the keys were first put. -/
structure MemoryStore where
  /-- The entries. -/
  entries : Keyed MemoryEntry

namespace MemoryStore

/-- A store without entries. -/
def empty : MemoryStore := ⟨[]⟩

/-- How many entries there are, the expired ones included. -/
def size (store : MemoryStore) : Nat := store.entries.length

/-- The store without a key. -/
def erase (store : MemoryStore) (key : String) : MemoryStore :=
  ⟨store.entries.filter fun entry => entry.1 != key⟩

/-- The text under a key. An expired entry is forgotten. -/
def get (store : MemoryStore) (now : Binary64) (key : String) : Option String × MemoryStore :=
  match store.entries.find? key with
  | none => (none, store)
  | some entry => if entry.isExpired now then (none, store.erase key) else (some entry.text, store)

/-- Puts a text under a key. -/
def set (store : MemoryStore) (now : Binary64) (key text : String) (ttl : Option Scalar) :
    Except Fault MemoryStore :=
  (expiryOf now ttl).map fun expires => ⟨store.entries.put key ⟨text, expires⟩⟩

/-- How many keys begin with a text. -/
def countPrefix (store : MemoryStore) (start : String) : Nat :=
  store.entries.countP fun entry => entry.1.startsWith start

/-- The store without the keys that begin with a text. -/
def erasePrefix (store : MemoryStore) (start : String) : MemoryStore :=
  ⟨store.entries.filter fun entry => !entry.1.startsWith start⟩

/-- The answer of the store to a call at a time, and the store afterwards. -/
def answer (now : Binary64) (request : StoreRequest) (store : MemoryStore) :
    request.Answer × MemoryStore :=
  match request with
  | .get key => let (text, after) := store.get now key; (.ok text, after)
  | .set key text ttl =>
    match store.set now key text ttl with
    | .ok after => (.ok (), after)
    | .error fault => (.error fault, store)
  | .delete key => (.ok (), store.erase key)
  | .deletePrefix start => (.ok (store.countPrefix start), store.erasePrefix start)

end MemoryStore

end StyleTokens
