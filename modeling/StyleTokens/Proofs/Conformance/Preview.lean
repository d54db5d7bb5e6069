import StyleTokens.Conformance.Preview
import StyleTokens.Proofs.Json.RoundTrip
import StyleTokens.Proofs.Outcome
import StyleTokens.Proofs.Value.Entries
import StyleTokens.Proofs.World

/-!
# What the live preview answers

The preview's program prints results, each with an id. A case is answered by the last result with
its id, whatever the others are: by its error if it has one, and otherwise by its output.
-/

namespace StyleTokens.Conformance

/-- The text that a map has as its id. -/
def idOf? (entries : Value.Entries) : Option String := (entries.get "id").text?

/-- A text is a document with a list of items. -/
def Holds (output : String) (items : List Value.Entries) : Prop :=
  ∃ document : Value.Entries, Json.parse output = .ok (.map document) ∧
    document.get? "results" = some (.list (items.map .map))

/-- The id of an item as a key. -/
def keyOf (item : Value.Entries) : Scalar :=
  match item.get "id" with
  | .scalar key => key
  | _ => .null

end StyleTokens.Conformance
