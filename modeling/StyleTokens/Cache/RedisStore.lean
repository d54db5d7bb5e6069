import StyleTokens.Cache.Request
import StyleTokens.Keyed

/-!
# The store on a server

A store that keeps its entries on a Redis server. It connects when it is first used, and again
after it was closed. Whatever goes wrong makes the store unavailable. Keys that begin with a text
are found by a pattern: the text and an asterisk.

A server can be a value: texts by key, which requests it refuses and with what report, which keys a
pattern selects, and what it was asked. It keeps no time, so its texts do not expire.
-/

namespace StyleTokens

/-- What the store asks of its client. A client reports failures as texts. -/
inductive RedisRequest where
  /-- To set up a connection to an address. -/
  | connect (url : String)
  /-- Whether the server answers. -/
  | ping
  /-- The text under a key. -/
  | get (key : String)
  /-- To put a text under a key. -/
  | set (key text : String)
  /-- To put a text under a key for so many seconds. -/
  | setex (key : String) (ttl : Scalar) (text : String)
  /-- To forget keys. -/
  | delete (keys : List String)
  /-- The keys that match a pattern. -/
  | scan (pattern : String)
  /-- To close the connection. -/
  | close
  /-- To note a line. -/
  | note (line : Log.Line)

/-- The command of a request on the wire, and its arguments. -/
def RedisRequest.command : RedisRequest → String × List Value
  | .connect url => ("from_url", [.str url])
  | .ping => ("ping", [])
  | .get key => ("get", [.str key])
  | .set key text => ("set", [.str key, .str text])
  | .setex key ttl text => ("setex", [.str key, .scalar ttl, .str text])
  | .delete keys => ("delete", keys.map .str)
  | .scan pattern => ("scan_iter", [.str pattern])
  | .close => ("close", [])
  | .note _ => ("note", [])

/-- What a client answers. -/
def RedisRequest.Answer : RedisRequest → Type
  | .get _ => Except String (Option String)
  | .scan _ => Except String (List String)
  | .connect _ | .ping | .set .. | .setex .. | .delete _ | .close => Except String Unit
  | .note _ => Unit

/-- A computation with a client. -/
abbrev RedisDialogue := Dialogue RedisRequest RedisRequest.Answer

/-- A store on a server. -/
structure RedisStore where
  /-- The address of the server; without one there is nothing to connect to. -/
  url : String
  /-- Whether there is a connection. -/
  connected : Bool
  deriving DecidableEq, Repr

namespace RedisStore

/-- A note of the store. -/
def note (level : Log.Level) (message : String) : RedisDialogue Unit :=
  .ask (.note ⟨level, Log.rootLogger ++ ".cache.stores", message⟩) .done

/-- Connects to the server if there is no connection; the store afterwards. -/
def connect (store : RedisStore) : RedisDialogue (Except Fault Unit × RedisStore) :=
  let failed (report : String) : RedisDialogue (Except Fault Unit × RedisStore) :=
    .done (.error (.cacheDown ("Redis unavailable: " ++ report)), store)
  if store.connected then .done (.ok (), store)
  else if store.url.isEmpty then .done (.error (.cacheDown "No Redis URL configured"), store)
  else
    .ask (.connect store.url) fun
      | .error report => failed report
      | .ok () => .ask .ping fun
        | .error report => failed report
        | .ok () => do
          note .info "Redis cache store connected"
          return (.ok (), ⟨store.url, true⟩)

/-- A client's answer, its failure as a fault of a call. -/
def reported {α : Type} (call : String) (answer : Except String α) : Except Fault α :=
  answer.mapError fun report => .cacheDown ("Redis " ++ call ++ " failed: " ++ report)

/-- Forgets all keys that begin with a text. -/
def deletePrefix (start : String) : RedisDialogue (Except Fault Nat) :=
  .ask (.scan (start ++ "*")) fun
    | .error report => .done (reported "delete_prefix" (.error report))
    | .ok [] => .done (.ok 0)
    | .ok keys => .ask (.delete keys) fun answer =>
      .done (reported "delete_prefix" (answer.map fun _ => keys.length))

/-- Answers a call over a connection. -/
def call : (request : StoreRequest) → RedisDialogue request.Answer
  | .get key => .ask (.get key) fun answer => .done (reported "get" answer)
  | .set key text ttl =>
    match ttl.filter Scalar.truthy with
    | some seconds => .ask (.setex key seconds text) fun answer => .done (reported "set" answer)
    | none => .ask (.set key text) fun answer => .done (reported "set" answer)
  | .delete key => .ask (.delete [key]) fun answer => .done (reported "delete" answer)
  | .deletePrefix start => deletePrefix start

/-- Answers a call of the store, and the store afterwards. -/
def answer (request : StoreRequest) (store : RedisStore) :
    RedisDialogue (request.Answer × RedisStore) := do
  match ← store.connect with
  | (.error fault, after) => return (.error fault, after)
  | (.ok (), after) =>
    let reply ← call request
    return (reply, after)

/-- Closes the connection, if there is one. -/
def close (store : RedisStore) : RedisDialogue RedisStore :=
  if store.connected then
    .ask .close fun
      | .error report => do
        note .debug ("Redis close failed: " ++ report)
        return ⟨store.url, false⟩
      | .ok () => .done ⟨store.url, false⟩
  else .done store

end RedisStore

/-! ### Servers as values -/

/-- A server, and what it was asked. -/
structure RedisServer where
  /-- The texts. -/
  texts : Keyed String
  /-- The report with which a request is refused, if it is. -/
  refusal : RedisRequest → Option String
  /-- Whether a pattern selects a key. -/
  selects : (pattern key : String) → Bool
  /-- What the server was asked, in order. -/
  requests : List RedisRequest

namespace RedisServer

/-- The answer to a request unless it is refused, and the server afterwards. -/
def reply {α : Type} (server : RedisServer) (request : RedisRequest) (result : α)
    (texts : Keyed String) : Except String α × RedisServer :=
  let after := { server with requests := server.requests ++ [request] }
  match server.refusal request with
  | some report => (.error report, after)
  | none => (.ok result, { after with texts := texts })

/-- The answer to a request, and the server afterwards. -/
def answer (server : RedisServer) : (request : RedisRequest) → request.Answer × RedisServer
  | .connect url => server.reply (.connect url) () server.texts
  | .ping => server.reply .ping () server.texts
  | .get key => server.reply (.get key) (server.texts.find? key) server.texts
  | .set key text => server.reply (.set key text) () (server.texts.put key text)
  | .setex key ttl text => server.reply (.setex key ttl text) () (server.texts.put key text)
  | .delete keys =>
    server.reply (.delete keys) () (server.texts.filter fun entry => !keys.contains entry.1)
  | .scan pattern =>
    server.reply (.scan pattern) (server.texts.names.filter (server.selects pattern)) server.texts
  | .close => server.reply .close () server.texts
  | .note _ => ((), server)

end RedisServer

end StyleTokens
