import StyleTokens.Conformance.Case

/-!
# Conformance reports

A report says what the cases of a corpus came to in one implementation. A case without an id cannot
be reported, and neither can one with an output whose expected one cannot be written as JSON: they
end the run. A case that fails in any other way is a result. Two reports are compared case by case:
outputs have to be equal, and a reported error counts as a difference.
-/

namespace StyleTokens.Conformance

/-- The two implementations. -/
inductive Runtime where
  /-- The one that renders pages. -/
  | render
  /-- The one that shows the live preview. -/
  | preview
  deriving DecidableEq, Repr

/-- The name of an implementation in a report. -/
def Runtime.name : Runtime → String
  | .render => "python"
  | .preview => "js"

/-- What a case came to. -/
structure CaseResult where
  /-- The id of the case. -/
  id : Value
  /-- The operation that the case names. -/
  kind : Value
  /-- Whether the output was the expected one. -/
  passed : Bool
  /-- The expected output. -/
  expected : Value
  /-- The output, null if there is none. -/
  actual : Value
  /-- The reported error, null if there is none. -/
  problem : Value

/-- What the cases of a corpus came to. -/
structure Report where
  /-- The implementation. -/
  runtime : Runtime
  /-- What the cases came to, in the order of the corpus. -/
  results : List CaseResult

namespace Report

/-- Whether all cases passed. -/
def passed (report : Report) : Bool := report.results.all CaseResult.passed

/-- What the cases that did not pass came to. -/
def failures (report : Report) : List CaseResult :=
  report.results.filter fun result => !result.passed

/-- The report in one line. -/
def summary (report : Report) : String :=
  let total := report.results.length
  report.runtime.name ++ ": " ++ toString (total - report.failures.length) ++ "/" ++
    toString total ++ " cases passed"

end Report

/-- What a case came to, by its id and by the output or the error that it was answered with. -/
def judged (case : Value.Entries) (id : Value) (answer : Except Value Value) :
    Except Fault CaseResult := do
  let kind := (case.get? "kind").getD (.str "")
  let expected := case.get "expected"
  match answer with
  | .ok actual =>
    let wanted ← Json.rewritten expected
    return ⟨id, kind, actual.equals wanted, expected, actual, .null⟩
  | .error problem => return ⟨id, kind, false, expected, .null, problem⟩

/-- An outcome as an answer: a fault is told by its message. -/
def answerOfOutcome (outcome : Except Fault Value) : Except Value Value :=
  outcome.mapError fun fault => .str fault.message

/-- What a case came to, by its output or its fault. -/
def resultOf (case : Value.Entries) (outcome : Except Fault Value) : Except Fault CaseResult := do
  let id ← demand (.map case) "id"
  judged case id (answerOfOutcome outcome)

/-- Runs a case of a corpus. -/
def runEntry (case : Value) : FileDialogue (Except Fault CaseResult) :=
  match case with
  | .map entries => do
    let outcome ← runCase entries
    return resultOf entries outcome
  | other => .done (.error (.noOperation other.kind "get"))

/-- Runs the cases of a corpus, one after the other. -/
def runCases : List Value → FileDialogue (Except Fault (List CaseResult))
  | [] => .done (.ok [])
  | case :: rest => do
    match ← runEntry case with
    | .error fault => return .error fault
    | .ok result =>
      let results ← runCases rest
      return results.map (result :: ·)

/-- The report on a corpus in the implementation that renders pages. -/
def renderReport (cases : List Value) : FileDialogue (Except Fault Report) := do
  let results ← runCases cases
  return results.map fun results => ⟨.render, results⟩

/-- An id as a key. -/
def keyOfId : Value → Except Fault Scalar
  | .scalar key => .ok key
  | other => .error (.unhashable other.kind)

/-- The last result with an id. -/
def lastWith? (results : List CaseResult) (id : Scalar) : Option CaseResult :=
  results.reverse.find? fun result =>
    match result.id with
    | .scalar key => key.sameKey id
    | _ => false

/-- Whether a result is not matched by that of the other implementation. -/
def disagrees (result : CaseResult) (other : Option CaseResult) : Bool :=
  match other with
  | none => true
  | some other =>
    other.problem.truthy || result.problem.truthy || !other.actual.equals result.actual

/-- The ids of the cases on which two implementations disagree. -/
def disagreements (render preview : Report) : Except Fault (List Value) := do
  let _ ← preview.results.mapM fun result => keyOfId result.id
  let compared ← render.results.mapM fun result => do
    let key ← keyOfId result.id
    return (result.id, disagrees result (lastWith? preview.results key))
  return (compared.filter fun entry => entry.2).map (·.1)

end StyleTokens.Conformance
