import StyleTokens.Cache.Envelope
import StyleTokens.Cache.MemoryStore
import StyleTokens.Digest.Sha256
import StyleTokens.Files.Request

/-!
# The store in files

A store that keeps every entry in a file of its own, named for the digest of the key; the key
itself, the text and the time of expiry are in the file. An entry is written under another name
first and put in its place in one step, so that a reader finds either the old entry or the new one.
Files that are no entries are passed over on reading and removed when keys are forgotten.
-/

namespace StyleTokens.FileStore

/-- What the name of a key's file begins with. -/
def stem (key : String) : String := Sha256.ofText key

/-- The file of a key. -/
def entryPath (directory : Path) (key : String) : Path := directory.child (stem key ++ ".json")

/-- A fault of the file system as a fault of the store. -/
def unavailable (message : String) (fault : FileFault) : Fault :=
  if fault.isRefusal then .cacheDown (message ++ ": " ++ fault.message) else .file fault

/-- The bytes of an entry's file. -/
def entryBytes (key text : String) (expires : Option Number) : List UInt8 :=
  Text.encodeUtf8 (Json.render .ascii7 (.ofFields [("key", .str key), ("value", .str text),
    ("expires_at", match expires with
      | some time => .num time
      | none => .null)]))

/-- The document in a file of the store, if it is one. -/
def documentOf? (bytes : List UInt8) : Except Fault (Option Value) :=
  match Text.decodeUtf8 bytes with
  | .ok text => storedDocument? text
  | .error _ => .ok none

/-- What a file says of its entry. -/
inductive Reading where
  /-- The text of an entry that is good. -/
  | text (text : String)
  /-- The entry has expired. -/
  | expired
  /-- The file holds no entry. -/
  | corrupt
  deriving DecidableEq, Repr

/-- Whether an entry with a time of expiry is over; a time that is no number cannot tell. -/
def isOver? (now : Binary64) : Value → Option Bool
  | .scalar .null => some false
  | .scalar s => s.number?.map fun time => time.le (.float now)
  | _ => none

/-- Reads the file of an entry. -/
def readEntry (now : Binary64) (bytes : List UInt8) : Except Fault Reading := do
  match ← documentOf? bytes with
  | some (.map entries) =>
    match isOver? now (Value.Entries.get entries "expires_at") with
    | some true => return .expired
    | some false =>
      match (Value.Entries.get entries "value").text? with
      | some text => return .text text
      | none => return .corrupt
    | none => return .corrupt
  | _ => return .corrupt

/-- The text under a key. An expired entry is removed. -/
def get (directory : Path) (now : Binary64) (key : String) :
    FileDialogue (Except Fault (Option String)) :=
  let path := entryPath directory key
  let failed (fault : FileFault) : Except Fault (Option String) :=
    .error (unavailable ("Cannot read cache file " ++ path.text) fault)
  .ask (.exists? path) fun
    | .error fault => .done (.error (.file fault))
    | .ok false => .done (.ok none)
    | .ok true => .ask (.read path) fun
      | .error fault => .done (failed fault)
      | .ok bytes =>
        match readEntry now bytes with
        | .error fault => .done (.error fault)
        | .ok (.text text) => .done (.ok (some text))
        | .ok .corrupt => .done (.ok none)
        | .ok .expired => .ask (.discard path) fun
          | .error fault => .done (failed fault)
          | .ok () => .done (.ok none)

/-- Puts an entry in its place: the directory is made, the entry is staged under a new name and
written there, and the staged file takes the place of the entry's. After a failure the staged file
is removed. -/
def place (directory path : Path) (stem : String) (bytes : List UInt8) :
    FileDialogue (Except FileFault Unit) :=
  .ask (.makeDirectories directory) fun
    | .error fault => .done (.error fault)
    | .ok () => .ask (.stage directory stem) fun
      | .error fault => .done (.error fault)
      | .ok staged =>
        let undo (fault : FileFault) : FileDialogue (Except FileFault Unit) :=
          .ask (.discard staged) fun
            | .error other => .done (.error other)
            | .ok () => .done (.error fault)
        .ask (.write staged bytes) fun
          | .error fault => undo fault
          | .ok () => .ask (.rename staged path) fun
            | .error fault => undo fault
            | .ok () => .done (.ok ())

/-- Puts a text under a key. -/
def set (directory : Path) (now : Binary64) (key text : String) (ttl : Option Scalar) :
    FileDialogue (Except Fault Unit) :=
  match expiryOf now ttl with
  | .error fault => .done (.error fault)
  | .ok expires => do
    let path := entryPath directory key
    let outcome ← place directory path (stem key) (entryBytes key text expires)
    return outcome.mapError (unavailable ("Cannot write cache file " ++ path.text))

/-- Forgets a key. -/
def delete (directory : Path) (key : String) : FileDialogue (Except Fault Unit) :=
  .ask (.discard (entryPath directory key)) fun outcome =>
    .done (outcome.mapError (unavailable "Cannot delete cache entry"))

/-- Whether a file goes when the keys that begin with a text are forgotten: those keys' files do,
and files that are no entries. A file that names no key counts as one of the empty key. -/
def isDoomed (start : String) (bytes : List UInt8) : Except Fault Bool := do
  match ← documentOf? bytes with
  | some (.map entries) =>
    match Value.Entries.get? entries "key" with
    | none => return "".startsWith start
    | some key =>
      match key.text? with
      | some key => return key.startsWith start
      | none => return true
  | _ => return true

/-- Removes the doomed ones among some files of a directory; how many there were, those before
included. -/
def sweep (directory : Path) (start : String) (count : Nat) :
    List Path → FileDialogue (Except Fault Nat)
  | [] => .done (.ok count)
  | path :: rest =>
    let failed (fault : FileFault) : Except Fault Nat :=
      .error (unavailable ("Cannot clear cache directory " ++ directory.text) fault)
    .ask (.read path) fun
    | .error fault => .done (failed fault)
    | .ok bytes =>
      match isDoomed start bytes with
      | .error fault => .done (.error fault)
      | .ok false => sweep directory start count rest
      | .ok true => .ask (.discard path) fun
        | .error fault => .done (failed fault)
        | .ok () => sweep directory start (count + 1) rest

/-- Forgets all keys that begin with a text. -/
def deletePrefix (directory : Path) (start : String) : FileDialogue (Except Fault Nat) :=
  .ask (.exists? directory) fun
    | .error fault => .done (.error (.file fault))
    | .ok false => .done (.ok 0)
    | .ok true => .ask (.list directory) fun names =>
      let files := (names.filter fun name => name.endsWith ".json").map directory.child
      sweep directory start 0 files

/-- Answers a call of the store at a time. -/
def answer (directory : Path) (now : Binary64) :
    (request : StoreRequest) → FileDialogue request.Answer
  | .get key => get directory now key
  | .set key text ttl => set directory now key text ttl
  | .delete key => delete directory key
  | .deletePrefix start => deletePrefix directory start

end StyleTokens.FileStore
