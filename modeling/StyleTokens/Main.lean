import StyleTokens.CommandLine.Program
import Std.Time.DateTime.Timestamp

/-!
# The command line

The outermost layer: it carries the effects of the program out on a real machine. It has no client
for cache servers and starts no other programs, and says so when it is asked to.
-/

namespace StyleTokens

/-- The number of an operating system's fault. -/
def faultNumber : IO.Error → Nat
  | .alreadyExists _ code _ | .noFileOrDirectory _ code _ | .inappropriateType _ code _
  | .permissionDenied _ code _ | .invalidArgument _ code _ | .resourceExhausted _ code _
  | .noSuchThing _ code _ | .otherError code _ | .illegalOperation code _ => code.toNat
  | _ => FileProblem.denied.number

/-- The fault that an operation on a path ended in. -/
def fileFault (path : Path) (fault : IO.Error) : FileFault :=
  ⟨(FileProblem.ofNumber? (faultNumber fault)).getD .denied, [path.text]⟩

/-- The outcome of an operation on a path. -/
def tryFile {α : Type} (path : Path) (operation : IO α) : IO (Except FileFault α) := do
  if path.hasNull then return .error ⟨.nullCharacter, [path.text]⟩
  try return .ok (← operation)
  catch fault => return .error (fileFault path fault)

/-- Whether a file can be read at a path. -/
def canRead (path : Path) : IO Bool := do
  match ← tryFile path (do (← IO.FS.Handle.mk path.text .read).read 1) with
  | .ok _ => return true
  | .error _ => return false

/-- Whether something stands at a path. -/
def standsAt (path : Path) : IO (Except FileFault Bool) := do
  match ← tryFile path (IO.FS.realPath path.text) with
  | .ok _ => return .ok true
  | .error ⟨.missing, _⟩ | .error ⟨.notDirectory, _⟩ | .error ⟨.nullCharacter, _⟩ =>
    return .ok false
  | .error fault => return .error fault

/-- Creates an empty file under a new name that begins as given. -/
def stageFile (directory : Path) (stem : String) : IO (Except FileFault Path) := do
  let path := directory.child (stem ++ "." ++ toString (← IO.monoNanosNow) ++ ".tmp")
  tryFile path (do
    let _ ← IO.FS.Handle.mk path.text .writeNew
    return path)

/-- Carries a request for files out. -/
def answerFile : (request : FileRequest) → IO request.Answer
  | .exists? path => standsAt path
  | .isFile path => canRead path
  | .read path => tryFile path (do return (← IO.FS.readBinFile path.text).toList)
  | .list path => do
    match ← tryFile path (do (← IO.FS.realPath path.text).readDir) with
    | .ok entries => return entries.toList.map fun entry => entry.fileName
    | .error _ => return []
  | .makeDirectories path => tryFile path (IO.FS.createDirAll path.text)
  | .stage directory stem => stageFile directory stem
  | .write path bytes => tryFile path (IO.FS.writeBinFile path.text ⟨bytes.toArray⟩)
  | .append path bytes =>
    tryFile path (do (← IO.FS.Handle.mk path.text .append).write ⟨bytes.toArray⟩)
  | .rename source target => tryFile source (IO.FS.rename source.text target.text)
  | .discard path => do
    match ← tryFile path (IO.FS.removeFile path.text) with
    | .error ⟨.missing, _⟩ => return .ok ()
    | outcome => return outcome

/-- What a request to a cache server comes to. -/
def noClient : String := "no client for cache servers"

/-- The answer to a request to a cache server. -/
def answerServer : (request : RedisRequest) → IO request.Answer
  | .note _ => return ()
  | .connect _ | .ping | .set .. | .setex .. | .delete _ | .close => return .error noClient
  | .get _ => return .error noClient
  | .scan _ => return .error noClient

/-- The time, in seconds. -/
def now : IO Binary64 := do
  let nanos := (← Std.Time.Timestamp.now).toNanosecondsSinceUnixEpoch.val
  return .ofRatio (nanos < 0) nanos.natAbs 1000000000

/-- Carries an effect out. -/
def answerEffect : (effect : Effect) → IO effect.Answer
  | .file request => answerFile request
  | .redis request => answerServer request
  | .clock => now
  | .note _ _ => return ()
  | .logTo _ _ => return .ok none
  | .print .out text => do (← IO.getStdout).putStr text
  | .print .err text => do (← IO.getStderr).putStr text
  | .locate _ => return none
  | .harness _ _ => return .notStarted "other programs are not started"

/-- Carries the effects of a program out. -/
def carryEffects {α : Type} : EffectDialogue α → IO α
  | .done result => return result
  | .ask effect next => do carryEffects (next (← answerEffect effect))

/-- The width of the screen: as the environment says, or that of a plain terminal. -/
def screenWidth (columns : Option String) : Nat :=
  ((columns.filter fun text => text.all Char.isDigit).bind String.toNat?).getD 80

end StyleTokens

open StyleTokens in
/-- Runs the program with its arguments. -/
def main (arguments : List String) : IO UInt32 := do
  let directory := Path.ofText (← IO.currentDir).toString
  let environment : Environment :=
    ⟨← IO.getEnv "TOKENSMITH_REDIS_URL", ← IO.getEnv "REDIS_URL", ← IO.getEnv "NO_COLOR"⟩
  let isTerminal ← (← IO.getStderr).isTty
  let session : CommandLine.Session :=
    ⟨directory, environment, isTerminal, screenWidth (← IO.getEnv "COLUMNS"), "Lean 4"⟩
  let exit ← carryEffects (CommandLine.program session arguments)
  if let some fault := exit.fault then
    (← IO.getStderr).putStrLn fault.message
  return exit.code.toUInt32
