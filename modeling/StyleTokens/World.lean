import StyleTokens.Cache.RedisStore
import StyleTokens.Effect

/-!
# Worlds

A world is a value that programs run in, in place of a real one: files, the time, a server, the
program that runs the preview and how a run of it goes, and what was noted and written. A run is a
function from a world to a result and the world afterwards.
-/

namespace StyleTokens

/-- A world. -/
structure World where
  /-- The files. -/
  files : FileTree
  /-- The time, in seconds. -/
  time : Binary64
  /-- The server. -/
  server : RedisServer
  /-- The program that runs the preview, if there is one. -/
  previewProgram : Option String
  /-- How a run of the preview goes. -/
  previewRun : ProgramRun
  /-- What was noted, in order. -/
  notes : List Log.Line
  /-- What was written, in order. -/
  written : List (Channel × String)

namespace World

/-- The answer to an effect, and the world afterwards. -/
def answer : (effect : Effect) → World → effect.Answer × World
  | .file request, world =>
    let (reply, after) := FileTree.answer request world.files
    (reply, { world with files := after })
  | .redis request, world =>
    let (reply, after) := world.server.answer request
    (reply, { world with server := after })
  | .clock, world => (world.time, world)
  | .note line _, world => ((), { world with notes := world.notes ++ [line] })
  | .logTo _ _, world => (.ok none, world)
  | .print channel text, world => ((), { world with written := world.written ++ [(channel, text)] })
  | .locate _, world => (world.previewProgram, world)
  | .harness _ _, world => (world.previewRun, world)

/-- Runs a program in a world. -/
def run {α : Type} (world : World) (program : EffectDialogue α) : α × World :=
  program.run answer world

/-- What was written to a channel. -/
def text (world : World) (channel : Channel) : String :=
  String.join ((world.written.filter fun entry => entry.1 == channel).map (·.2))

end World

end StyleTokens
