import StyleTokens.Proofs.Conformance.Preview
import StyleTokens.Proofs.Json.Rewritten

/-!
# What becomes of the cases of a corpus

A report has one result for each case, in the order of the corpus, whatever the cases come to. Where
pages are rendered, a case is answered by running its operation; in the live preview, by the last
item that was printed for it. A case has passed exactly if it is answered by the expected output.
-/

namespace StyleTokens.Conformance

/-- Cases with a text as their id each, whose expected outputs can be written as JSON. -/
structure IsCorpus (corpus : List Value.Entries) : Prop where
  /-- Each case has an id. -/
  ids : ∀ case ∈ corpus, ∃ id, idOf? case = some id
  /-- What is expected is JSON. -/
  documents : ∀ case ∈ corpus, Json.IsDocument (case.get "expected")
  /-- What is expected is not too deep. -/
  shallow : ∀ case ∈ corpus, Json.depth (case.get "expected") ≤ Json.depthLimit

/-- A case may be put in front of a corpus. -/
theorem IsCorpus.cons {corpus : List Value.Entries} (h : IsCorpus corpus) {case : Value.Entries}
    {id : String} (hid : idOf? case = some id) (hdocument : Json.IsDocument (case.get "expected"))
    (hshallow : Json.depth (case.get "expected") ≤ Json.depthLimit) : IsCorpus (case :: corpus) :=
  ⟨List.forall_mem_cons.mpr ⟨⟨id, hid⟩, h.ids⟩, List.forall_mem_cons.mpr ⟨hdocument, h.documents⟩,
    List.forall_mem_cons.mpr ⟨hshallow, h.shallow⟩⟩

/-! ### Where pages are rendered -/

/-- What a computation comes to that reads files which answer as given. -/
def readWith {α : Type} (files : (request : FileRequest) → request.Answer)
    (dialogue : FileDialogue α) : α :=
  (dialogue.run (fun request (_ : Unit) => (files request, ())) ()).1

section Render

variable {files : (request : FileRequest) → request.Answer}

variable (files)

/-- The operation that a case names returns a value, which is another as JSON has it. -/
def Returns (case : Value.Entries) (value : Value) : Prop :=
  ∃ operation output, operationOf case = .ok operation ∧
    readWith files (operation.run (inputOf case)) = .ok output ∧ Json.rewritten output = .ok value

variable {files} {case : Value.Entries}

end Render

/-! ### Both reports -/

section Reports

variable {corpus : List Value.Entries}

end Reports

end StyleTokens.Conformance
