import StyleTokens.Cache.RedisStore
import StyleTokens.Files.Request
import StyleTokens.Noted

/-!
# Effects

What a whole program asks of the world: files, a cache server, the time, other programs, output,
and the log.
-/

namespace StyleTokens

/-- Where output goes. -/
inductive Channel where
  /-- What a command was asked for. -/
  | out
  /-- What there is to say about it. -/
  | err
  deriving DecidableEq, Repr

/-- How running another program went. -/
inductive ProgramRun where
  /-- It ended with a code and wrote these texts as output and as complaints. -/
  | ended (code : Int) (output complaints : String)
  /-- It did not end in time. -/
  | timeout
  /-- It could not be started, for the given reason. -/
  | notStarted (report : String)
  deriving DecidableEq, Repr

/-- What a program asks of the world. -/
inductive Effect where
  /-- A request for files. -/
  | file (request : FileRequest)
  /-- A request to the client of a cache server. -/
  | redis (request : RedisRequest)
  /-- The time, in seconds. -/
  | clock
  /-- To note a line for the log, and what belongs to it. -/
  | note (line : Log.Line) (context : Value)
  /-- To log lines of at least a level from now on, also to a file if a directory is given. -/
  | logTo (level : Log.Level) (directory : Option Path)
  /-- To write a text. -/
  | print (channel : Channel) (text : String)
  /-- The program that runs the preview: the wanted one, or the one on the search path. -/
  | locate (wanted : Option String)
  /-- To run the preview by a program on the corpus in a file, or on the bundled one. -/
  | harness (program : String) (corpus : Option Path)

/-- What the world answers. -/
def Effect.Answer : Effect → Type
  | .file request => request.Answer
  | .redis request => request.Answer
  | .clock => Binary64
  | .locate _ => Option String
  | .harness _ _ => ProgramRun
  | .logTo _ _ => Except Fault (Option Path)
  | .note _ _ | .print _ _ => Unit

/-- A computation with effects. -/
abbrev EffectDialogue := Dialogue Effect Effect.Answer

/-- A computation with effects that may end in a fault. -/
abbrev Action := ExceptT Fault EffectDialogue

namespace EffectDialogue

/-- A computation with files as one with effects. -/
def ofFiles {α : Type} (dialogue : FileDialogue α) : EffectDialogue α :=
  dialogue.relay fun request => .ask (.file request) .done

/-- Notes lines. -/
def note : List Log.Line → EffectDialogue Unit
  | [] => .done ()
  | line :: rest => .ask (.note line .null) fun _ => note rest

/-- A computation with a client as one with effects; its notes are notes of the program. -/
def ofRedis {α : Type} (dialogue : RedisDialogue α) : EffectDialogue α :=
  dialogue.relay fun
    | .note line => note [line]
    | .connect url => .ask (.redis (.connect url)) .done
    | .ping => .ask (.redis .ping) .done
    | .get key => .ask (.redis (.get key)) .done
    | .set key text => .ask (.redis (.set key text)) .done
    | .setex key ttl text => .ask (.redis (.setex key ttl text)) .done
    | .delete keys => .ask (.redis (.delete keys)) .done
    | .scan pattern => .ask (.redis (.scan pattern)) .done
    | .close => .ask (.redis .close) .done

end EffectDialogue

namespace Action

variable {α : Type}

/-- An outcome that is known. -/
def ofExcept (outcome : Except Fault α) : Action α := (.done outcome : EffectDialogue _)

/-- A computation with files, none of whose faults are left. -/
def ofFiles (dialogue : FileDialogue α) : Action α :=
  (EffectDialogue.ofFiles dialogue).bind fun result => .done (.ok result)

/-- A computation with files that may end in a fault. -/
def files (dialogue : FileDialogue (Except Fault α)) : Action α := EffectDialogue.ofFiles dialogue

/-- An outcome with its notes as lines of the log, which are noted. -/
def noted {ν : Type} (line : ν → Log.Line) (outcome : Noted ν α) : Action α :=
  (EffectDialogue.note (outcome.notes.map line)).bind fun _ => .done outcome.outcome

/-- Notes a line, and what belongs to it. -/
def note (line : Log.Line) (context : Value) : Action Unit :=
  .ask (.note line context) fun _ => .done (.ok ())

/-- Writes a text. -/
def print (channel : Channel) (text : String) : Action Unit :=
  .ask (.print channel text) fun _ => .done (.ok ())

/-- The time. -/
def clock : Action Binary64 := .ask .clock fun time => .done (.ok time)

end Action

end StyleTokens
