import StyleTokens.Number.Decimal

/-!
# Log lines

What the library has to say about its work: a line has a level, the name of the logger that it
goes to, and a message. Names are dotted, outermost part first.
-/

namespace StyleTokens.Log

/-- The weight of a line; heavier lines have larger numbers. -/
abbrev Level := Int

namespace Level

/-- No weight of its own. -/
def unset : Level := 0

/-- Details for whoever looks for a fault. -/
def debug : Level := 10

/-- What happens in the normal course of things. -/
def info : Level := 20

/-- Something that may need attention. -/
def warning : Level := 30

/-- Something that failed. -/
def error : Level := 40

/-- A failure that ends all work. -/
def critical : Level := 50

/-- The levels with a name of their own. -/
def named : List (Level × String) :=
  [(unset, "NOTSET"), (debug, "DEBUG"), (info, "INFO"), (warning, "WARNING"), (error, "ERROR"),
    (critical, "CRITICAL")]

/-- Other names that stand for levels. -/
def synonyms : List (Level × String) := [(warning, "WARN"), (critical, "FATAL")]

/-- The name of a level. -/
def name (level : Level) : String :=
  (named.lookup level).getD ("Level " ++ String.ofList (intDigits level))

/-- The level that a name stands for. -/
def ofName? (name : String) : Option Level :=
  ((named ++ synonyms).find? fun entry => entry.2 == name).map (·.1)

end Level

/-- The logger above all others of this library. -/
def rootLogger : String := "tokensmith"

/-- A line for the log. -/
structure Line where
  /-- The weight. -/
  level : Level
  /-- The logger that the line goes to. -/
  logger : String
  /-- The message. -/
  message : String
  deriving DecidableEq, Repr

end StyleTokens.Log
