import StyleTokens.Fault

/-!
# Outcomes with notes

Some computations note things on the way: a malformed entry, a skipped preset, a line for the log.
Notes made before a fault are kept.
-/

namespace StyleTokens

/-- The outcome of a computation, and what it noted on the way, in order. -/
structure Noted (ν α : Type) where
  /-- What was noted. -/
  notes : List ν
  /-- The result, or the fault that ended the computation. -/
  outcome : Except Fault α

namespace Noted

variable {ν α β : Type}

/-- A result with nothing noted. -/
def result (a : α) : Noted ν α := ⟨[], .ok a⟩

/-- A computation that notes nothing. -/
def quiet (outcome : Except Fault α) : Noted ν α := ⟨[], outcome⟩

/-- A single note. -/
def note (n : ν) : Noted ν Unit := ⟨[n], .ok ()⟩

/-- Goes on with a result; the notes of both parts follow each other. -/
def next (first : Noted ν α) (rest : α → Noted ν β) : Noted ν β :=
  match first.outcome with
  | .error fault => ⟨first.notes, .error fault⟩
  | .ok a => ⟨first.notes ++ (rest a).notes, (rest a).outcome⟩

instance : Monad (Noted ν) where
  pure := result
  bind := next

end Noted

end StyleTokens
