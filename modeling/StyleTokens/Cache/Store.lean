import StyleTokens.Cache.Basic
import StyleTokens.Cache.FileStore
import StyleTokens.Effect
import StyleTokens.Settings.Basic

/-!
# Stores

The store that settings select: the memory of the process, a directory of files, or a server.
-/

namespace StyleTokens

/-- A store of any kind. -/
inductive Store where
  /-- A store in memory. -/
  | memory (store : MemoryStore)
  /-- A store in the files of a directory. -/
  | file (directory : Path)
  /-- A store on a server. -/
  | redis (store : RedisStore)

namespace Store

/-- The name of a kind of store. -/
def name : Store → String
  | .memory _ => "MemoryStore"
  | .file _ => "FileStore"
  | .redis _ => "RedisStore"

/-- The store that settings select, empty if it is in memory; no store means that nothing is
cached. -/
def ofSettings (settings : CacheSettings) : Option Store :=
  match settings.backend with
  | .none => none
  | .file => some (.file settings.directory)
  | .redis => some (.redis ⟨settings.redisUrl.display, false⟩)
  | .memory => some (.memory .empty)

/-- How many entries a store holds; only a store in memory counts them. -/
def size : Store → Except Fault Nat
  | .memory store => .ok store.size
  | other => .error (.noLength other.name)

/-- Whether a store has a connection. -/
def available : Store → Bool
  | .redis store => store.connected
  | _ => true

/-- Answers a call of a store, and the store afterwards. -/
def call (request : StoreRequest) : Store → EffectDialogue (request.Answer × Store)
  | .memory store => .ask .clock fun now =>
    let (reply, after) := store.answer now request
    .done (reply, .memory after)
  | .file directory => .ask .clock fun now =>
    (EffectDialogue.ofFiles (FileStore.answer directory now request)).bind fun reply =>
      .done (reply, .file directory)
  | .redis store =>
    (EffectDialogue.ofRedis (store.answer request)).bind fun (reply, after) =>
      .done (reply, .redis after)

/-- Answers a request of a cache, and the store afterwards. -/
def server : (request : CacheRequest) → Store → EffectDialogue (request.Answer × Store)
  | .store request, store => store.call request
  | .clock, store => .ask .clock fun time => .done (time, store)
  | .note line, store => .ask (.note line .null) fun reply => .done (reply, store)

/-- Runs an action of a cache on a store; the outcome, and the store afterwards. -/
def perform {α : Type} (store : Store) (action : CacheAction α) :
    EffectDialogue (Except Fault α × Store) :=
  Dialogue.serve server (action : CacheDialogue (Except Fault α)) store

end Store

end StyleTokens
