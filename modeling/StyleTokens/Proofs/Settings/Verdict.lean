import StyleTokens.Proofs.Files.Directory
import StyleTokens.Proofs.Outcome
import StyleTokens.Settings.Manifest

/-!
# Which manifests can be loaded

Settings are read one after the other, and the first that cannot be used decides. Some are checked
and refused with a report that names them; others are not, and then something else goes wrong. So
each setting has a verdict that only depends on its value, and loading a manifest goes as the first
verdict says that is not favourable.
-/

namespace StyleTokens

/-- How reading settings may go. -/
inductive Verdict where
  /-- They are read. -/
  | fits
  /-- They are refused with a report on settings. -/
  | refused
  /-- Something else goes wrong. -/
  | unguarded
  deriving DecidableEq, Repr

namespace Verdict

variable {α β : Type}

/-- How a computation went. -/
def of : Except Fault α → Verdict
  | .ok _ => .fits
  | .error (.config _) => .refused
  | .error _ => .unguarded

/-- The first verdict that is not favourable, if there is one. -/
def first : List Verdict → Verdict
  | [] => .fits
  | .fits :: rest => first rest
  | verdict :: _ => verdict

/-- A changed result has the same verdict. -/
theorem of_map (outcome : Except Fault α) (f : α → β) : of (outcome.map f) = of outcome := by
  cases outcome with
  | ok a => rfl
  | error fault => cases fault <;> rfl

end Verdict

namespace Manifest

section

variable {root file : Path} {environment : Environment} {entries : Value.Entries}

end

/-- The place of that manifest. -/
def manifestPath : Path := .ofText ("/" ++ fileName)

end Manifest

end StyleTokens
