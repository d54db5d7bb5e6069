import StyleTokens.Record
import StyleTokens.Token.Entry

/-!
# Token entries from fields

A token entry may also be built from the fields of a known shape; then every field is checked.
-/

namespace StyleTokens

/-- The bare entry of the given fields. -/
def TokenEntry.bareOfFields (fields : Value.Entries) : Except Fault TokenEntry :=
  ((Checked.requiredText fields "value").map TokenEntry.bare).toExcept

/-- The entry of a shape with the given fields. -/
def TokenEntry.ofFields (shape : EntryShape) (fields : Value.Entries) :
    Except Fault TokenEntry := do
  let readings ← shape.readFields fields
  let refused := (refusedFields readings).map fun (field, reason) =>
    (field, FieldProblem.notSide reason)
  let checked : Checked (List (Option String)) :=
    if refused.isEmpty then .sound (readings.map (·.2.value?)) else .flawed refused
  let word := (Checked.wordOr fields "type" shape.name).map fun _ => TokenEntry.ofShape shape
  (word.apply checked).toExcept

end StyleTokens
