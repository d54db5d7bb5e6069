import StyleTokens.Proofs.Conformance.Wording

/-!
# On which cases two implementations agree

Two reports on one corpus are compared case by case. A case is listed unless it was answered alike:
by an output where pages are rendered, and by the same output in the live preview. What counts as
false is no error to the comparison, although it is one to the report: an item with such an error
passes for one whose output is null.
-/

namespace StyleTokens.Conformance

/-- An item has an error that counts as false. -/
def IsSilent (item : Value.Entries) : Prop :=
  ∃ problem, item.get? "error" = some problem ∧ problem.truthy = false

section Seeming

variable {files : (request : FileRequest) → request.Answer} {items : List Value.Entries}
variable {case : Value.Entries}

end Seeming

/-! ### What a result tells -/

section Compared

variable {files : (request : FileRequest) → request.Answer} {corpus items : List Value.Entries}
variable {output complaints : String} {render preview : Report}

end Compared

end StyleTokens.Conformance
