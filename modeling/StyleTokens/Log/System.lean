import StyleTokens.Effect
import StyleTokens.Log.Line
import StyleTokens.Log.Record
import StyleTokens.Text.Case

/-!
# Logging

A component asks for a logger by its own name. The logger's name is the component's in lower case
with blanks replaced, so several components may share a logger. A logger has a filter for every
component that asked for it, in the order in which they asked; a filter names its component in a
record that names none.

Lines that a program notes go to the log, which is a state of the program: the least level that is
logged, and the places that records are written to. A program without any place to write to logs
nothing. The log serves the notes of a program by writing what they come to.
-/

namespace StyleTokens.Log

/-- The name of a component's logger. -/
def loggerName (component : String) : String :=
  rootLogger ++ "." ++ String.ofList ((Text.lowerString component).toList.map fun c =>
    if c = ' ' then '_' else c)

/-- The components that asked for a logger, in the order in which they first asked. -/
structure Loggers where
  /-- The components. -/
  components : List String
  deriving DecidableEq, Repr

namespace Loggers

/-- Nobody has asked for a logger. -/
def empty : Loggers := ⟨[]⟩

/-- A component asks for its logger. -/
def request (loggers : Loggers) (component : String) : Loggers :=
  if loggers.components.contains component then loggers
  else ⟨loggers.components ++ [component]⟩

/-- The components in the filters of a logger. -/
def filters (loggers : Loggers) (logger : String) : List String :=
  loggers.components.filter fun component => loggerName component == logger

/-- The component that a record names behind the filters of a logger. -/
def tag (loggers : Loggers) (logger : String) (component : Option String) : Option String :=
  (loggers.filters logger).foldl (fun named filter => named.or (some filter)) component

end Loggers

/-- A place that records are written to, and the least level of those that are. -/
inductive Handler where
  /-- The terminal, in colour or not. -/
  | terminal (level : Level) (coloured : Bool)
  /-- A file of JSON objects. -/
  | file (level : Level) (path : Path)
  deriving DecidableEq, Repr

/-- The least level of a place. -/
def Handler.level : Handler → Level
  | .terminal level _ => level
  | .file level _ => level

/-- Writes a record to a place. -/
def Handler.write (record : Record) : Handler → EffectDialogue Unit
  | .terminal _ coloured => .ask (.print .err (record.shown coloured ++ "\n")) .done
  | .file _ path =>
    .ask (.file (.append path (Text.encodeUtf8 (record.json ++ "\n")))) fun _ => .done ()

/-- Whether a terminal is written to in colour: it has to be one, and colour must not be
unwanted. -/
def colourWanted (unwanted : Option String) (isTerminal : Bool) : Bool :=
  (unwanted.getD "").isEmpty && isTerminal

/-- The level that a setting stands for: that of the name in any case, or the usual one. -/
def Level.ofSetting (name : String) : Level := (Level.ofName? (Text.upperString name)).getD .info

/-- The state of the log. -/
structure System where
  /-- The least level that is logged, if one is set. -/
  level : Level
  /-- Whether loggers above the library's hear of its records. -/
  propagates : Bool
  /-- The places that records are written to. -/
  handlers : List Handler
  /-- The loggers of components. -/
  loggers : Loggers
  /-- Whether the terminal is written to in colour. -/
  coloured : Bool
  deriving DecidableEq, Repr

namespace System

/-- The log of a program that has not set it up. -/
def start (components : List String) (coloured : Bool) : System :=
  ⟨.unset, true, [], ⟨components⟩, coloured⟩

/-- The least level that is logged; warnings are unless a level is set. -/
def threshold (system : System) : Level := if system.level = .unset then .warning else system.level

/-- Whether records of a level are logged. -/
def isEnabled (system : System) (level : Level) : Bool := 0 < level && system.threshold ≤ level

/-- The name of the log file. -/
def fileName : String := "tokensmith.log"

/-- Writes a record to some places. -/
def writeTo (record : Record) : List Handler → EffectDialogue Unit
  | [] => .done ()
  | handler :: rest =>
    if handler.level ≤ record.line.level then
      (handler.write record).bind fun _ => writeTo record rest
    else writeTo record rest

/-- Notes a line, with a component if it names one and what belongs to it. -/
def note (system : System) (line : Line) (component : Option String) (context : Value) :
    EffectDialogue Unit :=
  if system.isEnabled line.level then
    .ask .clock fun now =>
      writeTo ⟨.ofSeconds now, line, (system.loggers.tag line.logger component).map .str, context,
        .unknown, none⟩ system.handlers
  else .done ()

/-- Adds a log file in a directory, which is made if it is missing. -/
def addFile (system : System) (level : Level) (directory : Path) :
    EffectDialogue (Except Fault (Option Path) × System) :=
  let path := directory.child fileName
  .ask (.file (.makeDirectories directory)) fun
    | .error fault => .done (.error (.file fault), system)
    | .ok () => .ask (.file (.append path [])) fun
      | .error fault => .done (.error (.file fault), system)
      | .ok () =>
        let after := { system with handlers := system.handlers ++ [Handler.file level path] }
        (after.note ⟨.debug, rootLogger, "JSONL logging initialized"⟩ (some "logging")
          (.ofFields [("log_file", .str path.text)])).bind fun _ => .done (.ok (some path), after)

/-- Sets the log up anew: records of at least a level go to the terminal, and to a file if a
directory is given. -/
def setUp (system : System) (level : Level) (directory : Option Path) :
    EffectDialogue (Except Fault (Option Path) × System) :=
  let fresh := { system with
    level := level, propagates := false, handlers := [.terminal level system.coloured] }
  match directory with
  | none => .done (.ok none, fresh)
  | some directory => fresh.addFile level directory

/-- Serves the notes of a program; what else it asks for is left to others. -/
def serve : (effect : Effect) → System → EffectDialogue (effect.Answer × System)
  | .note line context, system => (system.note line none context).bind fun _ => .done ((), system)
  | .logTo level directory, system => system.setUp level directory
  | .file request, system => .ask (.file request) fun reply => .done (reply, system)
  | .redis request, system => .ask (.redis request) fun reply => .done (reply, system)
  | .clock, system => .ask .clock fun reply => .done (reply, system)
  | .print channel text, system => .ask (.print channel text) fun reply => .done (reply, system)
  | .locate wanted, system => .ask (.locate wanted) fun reply => .done (reply, system)
  | .harness program corpus, system =>
    .ask (.harness program corpus) fun reply => .done (reply, system)

end System

end StyleTokens.Log
