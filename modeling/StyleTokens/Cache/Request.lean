import StyleTokens.Dialogue
import StyleTokens.Fault
import StyleTokens.Log.Line

/-!
# Requests of a cache

A cache keeps its entries in a store, which maps keys to texts and may forget them after a time.
Every call of a store may fail. Besides its store a cache asks for the time, and it notes what it
does.
-/

namespace StyleTokens

/-- A call of a store. -/
inductive StoreRequest where
  /-- The text under a key. -/
  | get (key : String)
  /-- To put a text under a key, good for so many seconds when they are given; a truth value counts
  as one or zero seconds. -/
  | set (key text : String) (ttl : Option Scalar)
  /-- To forget a key. -/
  | delete (key : String)
  /-- To forget all keys that begin with a text. -/
  | deletePrefix (start : String)
  deriving DecidableEq

/-- The name of what a request asks for. -/
def StoreRequest.name : StoreRequest → String
  | .get _ => "get"
  | .set .. => "set"
  | .delete _ => "delete"
  | .deletePrefix _ => "delete_prefix"

/-- What a call of a store results in, if it succeeds: a text, nothing, or how many keys were
forgotten. -/
def StoreRequest.Result : StoreRequest → Type
  | .get _ => Option String
  | .set .. => Unit
  | .delete _ => Unit
  | .deletePrefix _ => Nat

/-- What a call of a store is answered with. -/
abbrev StoreRequest.Answer (request : StoreRequest) : Type := Except Fault request.Result

/-- What a cache asks for. -/
inductive CacheRequest where
  /-- A call of the store. -/
  | store (request : StoreRequest)
  /-- The time, in seconds. -/
  | clock
  /-- To note a line. -/
  | note (line : Log.Line)

/-- What a cache is answered with. -/
def CacheRequest.Answer : CacheRequest → Type
  | .store request => request.Answer
  | .clock => Binary64
  | .note _ => Unit

/-- A computation of a cache. -/
abbrev CacheDialogue := Dialogue CacheRequest CacheRequest.Answer

/-- A computation of a cache that may end in a fault. -/
abbrev CacheAction := ExceptT Fault CacheDialogue

namespace CacheAction

/-- A call of the store. -/
def call (request : StoreRequest) : CacheAction request.Result :=
  .ask (.store request) .done

/-- An outcome that is known. -/
def ofExcept {α : Type} (outcome : Except Fault α) : CacheAction α :=
  (.done outcome : CacheDialogue (Except Fault α))

/-- The time. -/
def clock : CacheAction Binary64 := .ask .clock fun time => .done (.ok time)

/-- Notes a line of the cache. -/
def note (level : Log.Level) (message : String) : CacheAction Unit :=
  .ask (.note ⟨level, Log.rootLogger ++ ".cache.content_cache", message⟩) fun _ => .done (.ok ())

/-- Runs an action; when a backend cannot be reached, goes on with its report instead. -/
def orUnavailable {α : Type} (action : CacheAction α) (rescue : Report → CacheAction α) :
    CacheAction α :=
  tryCatch action fun
    | .cacheUnavailable report => rescue report
    | fault => throw fault

end CacheAction

end StyleTokens
