import StyleTokens.Fault

/-!
# Records built from data

A record is built from the fields of a map. Every field is checked, so that a report names all that
is wrong and not only the first thing.
-/

namespace StyleTokens

/-- A part of a record, or what is wrong with the fields that it is built from. -/
inductive Checked (α : Type) where
  /-- Nothing is wrong. -/
  | sound (value : α)
  /-- The problems, in the order of the fields. -/
  | flawed (problems : List (String × FieldProblem))

namespace Checked

variable {α β : Type}

/-- A checked part turned into another. -/
def map (f : α → β) : Checked α → Checked β
  | .sound value => .sound (f value)
  | .flawed problems => .flawed problems

/-- Applies a checked function; the problems of both sides follow each other. -/
def apply (f : Checked (α → β)) (a : Checked α) : Checked β :=
  match f, a with
  | .sound g, .sound b => .sound (g b)
  | .sound _, .flawed problems => .flawed problems
  | .flawed problems, .sound _ => .flawed problems
  | .flawed first, .flawed second => .flawed (first ++ second)

/-- A record, or the fault that lists its problems. -/
def toExcept : Checked α → Except Fault α
  | .sound value => .ok value
  | .flawed problems => .error (.invalid problems)

/-- A problem with one field. -/
def problem (field : String) (problem : FieldProblem) : Checked α := .flawed [(field, problem)]

/-- A field that holds a text. -/
def text (field : String) : Value → Checked String
  | .scalar (.str s) => .sound s
  | _ => problem field .notText

/-- A field that has to be there and to hold a text. -/
def requiredText (fields : Value.Entries) (field : String) : Checked String :=
  match fields.get? field with
  | some value => text field value
  | none => problem field .required

/-- A field that holds a text if it is there. -/
def textOr (fields : Value.Entries) (field default : String) : Checked String :=
  match fields.get? field with
  | some value => text field value
  | none => .sound default

/-- A field that holds a text or null, if it is there. -/
def optionalText (fields : Value.Entries) (field : String) : Checked (Option String) :=
  match fields.get? field with
  | some (.scalar .null) | none => .sound none
  | some value => (text field value).map some

/-- A field that holds a map if it is there. -/
def mapOr (fields : Value.Entries) (field : String) : Checked Value.Entries :=
  match fields.get? field with
  | some (.map entries) => .sound entries
  | some _ => problem field .notMap
  | none => .sound []

/-- A field that holds one word if it is there. -/
def wordOr (fields : Value.Entries) (field word : String) : Checked Unit :=
  match fields.get? field with
  | some value => if value.text? = some word then .sound () else problem field (.notWord word)
  | none => .sound ()

end Checked

end StyleTokens
