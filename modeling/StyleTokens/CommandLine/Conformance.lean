import StyleTokens.CommandLine.Session
import StyleTokens.Conformance.Preview
import StyleTokens.Json.Printer

/-!
# Running the conformance corpus

A corpus is run in the implementation that renders pages and, if it is wanted and there is a
program for it, in that of the live preview. Cases that fail are shown in a table, and so are the
ids of the cases on which the two disagree.
-/

namespace StyleTokens.CommandLine

open Conformance (CaseResult)

/-- A cell of a table: a text, or nothing. -/
def cellOfValue : Value → Except Fault String
  | .scalar .null => .ok ""
  | .scalar (.str text) => .ok text
  | other => .error (.notCell other.kind)

/-- The row of a case that failed. -/
def failureRow (result : CaseResult) : Except Fault (List String) := do
  let actual :=
    if result.problem.truthy then result.problem else .str (Json.render .shown result.actual)
  return [← cellOfValue result.id, Json.render .shown result.expected, ← cellOfValue actual]

/-- The table of the cases that failed. -/
def failureTable (report : Conformance.Report) : Except Fault Terminal.Table := do
  let rows ← report.failures.mapM failureRow
  return ⟨report.runtime.name ++ " failures",
    [⟨"Case", false⟩, ⟨"Expected", false⟩, ⟨"Actual", false⟩], rows⟩

/-- Shows a report. -/
def showReport (session : Session) (report : Conformance.Report) : Step Unit := do
  session.display report.summary
  unless report.failures.isEmpty do
    session.draw (← Action.ofExcept (failureTable report))

/-- A report that has to come about; what is said otherwise begins as given. -/
def demandReport {α : Type} (start : String) (action : Action α) : Step α := do
  match ← Step.outcome action with
  | .ok result => return result
  | .error (.conformance problem) => Step.refuse (start ++ problem.text)
  | .error fault => throw (.failed fault)

/-- The ids of cases, one after the other. -/
def idList (ids : List Value) : Except Fault String :=
  (textItems 0 ids).map fun texts => ", ".intercalate texts

/-- Runs a corpus in the live preview, and tells whether all is well. -/
def runPreview (session : Session) (program : Option String) (corpus : Option Path)
    (render : Conformance.Report) : Step Bool := do
  let report ← demandReport "JavaScript runtime failed: "
    (Conformance.previewReport program corpus)
  showReport session report
  let different ← Action.ofExcept (Conformance.disagreements render report)
  unless different.isEmpty do
    session.display ("[red]Runtimes disagree on:[/red] " ++ (← Action.ofExcept (idList different)))
  return report.passed && different.isEmpty

/-- The program that runs the live preview. -/
def locate (wanted : Option String) : Action (Option String) :=
  .ask (.locate wanted) fun found => .done (.ok found)

/-- Runs a corpus, the bundled one unless another is given. -/
def runConformance (session : Session) (preview : Bool) (program corpus : Option String) :
    Step Unit := do
  let corpus := corpus.map Path.ofText
  let cases ← demandReport "" (Action.files (Conformance.loadCorpus corpus))
  let report ← Action.files (Conformance.renderReport cases)
  showReport session report
  let previewIsWell ←
    if !preview then pure true
    else if program.isNone && (← locate none).isNone then
      Step.say .err "node not found on PATH; skipping the JavaScript runtime"
      pure true
    else runPreview session program corpus report
  if report.passed && previewIsWell then
    session.display "[green]✓ All conformance cases passed[/green]"
  else throw .refused

end StyleTokens.CommandLine
