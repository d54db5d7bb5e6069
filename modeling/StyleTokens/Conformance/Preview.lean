import StyleTokens.Conformance.Corpus
import StyleTokens.Conformance.Report
import StyleTokens.Effect
import StyleTokens.Text.Blank

/-!
# The live preview's report

The live preview's implementation runs in another program, which is started on a corpus and prints
a JSON object with a list of results. Each result has the id of a case, and an output or an error.
-/

namespace StyleTokens.Conformance

/-- The program that runs the preview: the wanted one if it is a file or on the search path, or the
usual one on the search path. -/
def locateProgram (isThere : String → Bool) (onPath : String → Option String)
    (wanted : Option String) : Option String :=
  match wanted.filter fun name => !name.isEmpty with
  | some name => if isThere name then some name else onPath name
  | none => onPath "node"

/-- For how many seconds the program may run. -/
def timeLimit : Nat := 60

/-- The items of a list of results, which may also be an empty text or an empty map. -/
def resultItems : Value → Option (List Value)
  | .list items => some items
  | .map [] => some []
  | .scalar (.str "") => some []
  | _ => none

/-- A result with its id. -/
def keyedItem : Value → Option (Scalar × Value.Entries)
  | .map entries =>
    match Value.Entries.get? entries "id" with
    | some (.scalar id) => some (id, entries)
    | _ => none
  | _ => none

/-- The results in a document, each with its id. -/
def resultsOfDocument : Value → Option (List (Scalar × Value.Entries))
  | .map entries => do
    let items ← resultItems (← Value.Entries.get? entries "results")
    items.mapM keyedItem
  | _ => none

/-- The results that the program printed. -/
def readResults (output : String) : Except Fault (List (Scalar × Value.Entries)) :=
  let unreadable : Fault := .notConforming "Unreadable JS harness output: no results"
  match Json.parse output with
  | .error (.unconvertible problem) => .error (.unconvertible problem)
  | .error .malformed => .error unreadable
  | .ok document =>
    match resultsOfDocument document with
    | some results => .ok results
    | none => .error unreadable

/-- The last result with an id. -/
def lastItem? (results : List (Scalar × Value.Entries)) (id : Scalar) : Option Value.Entries :=
  (results.reverse.find? fun entry => entry.1.sameKey id).map (·.2)

/-- The answer that a result holds, if there is one. -/
def answerOfItem : Option Value.Entries → Except Value Value
  | none => .error (.str "no result")
  | some item =>
    match item.get? "error" with
    | some problem => .error problem
    | none => .ok (item.get "output")

/-- What a case came to, by the results that the program printed. -/
def previewResult (results : List (Scalar × Value.Entries)) (case : Value) :
    Except Fault CaseResult := do
  match case with
  | .map entries =>
    let id ← demand case "id"
    judged entries id (answerOfItem (lastItem? results (← keyOfId id)))
  | other => throw (.noOperation other.kind "get")

/-- The report on a corpus, by how the run of the program went. -/
def reportOfRun (cases : List Value) : ProgramRun → Except Fault Report
  | .timeout =>
    .error (.notConforming ("JS harness timed out after " ++ toString timeLimit ++ "s"))
  | .notStarted report => .error (.notConforming ("Cannot run JS harness: " ++ report))
  | .ended code output complaints => do
    if code = 0 then
      let results ← readResults output
      return ⟨.preview, ← cases.mapM (previewResult results)⟩
    else
      throw (.notConforming ("JS harness failed (" ++ String.ofList (intDigits code) ++ "): " ++
        String.ofList (Text.trim complaints.toList)))

/-- The report on a corpus in the implementation that shows the live preview. -/
def previewReport (wanted : Option String) (corpus : Option Path) : Action Report := do
  let program ← (.ask (.locate wanted) fun found => .done (.ok found) : Action (Option String))
  match program with
  | none =>
    throw (.notConforming "node executable not found; install Node.js or pass --node")
  | some program =>
    let cases ← Action.files (loadCorpus corpus)
    let run ← (.ask (.harness program corpus) fun run => .done (.ok run) : Action ProgramRun)
    let report ← Action.ofExcept (reportOfRun cases run)
    Action.note ⟨.debug, Log.rootLogger ++ ".conformance.runner", report.summary⟩ .null
    return report

end StyleTokens.Conformance
