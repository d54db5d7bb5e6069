import StyleTokens.Value.Basic

/-!
# Tables under construction

Statements of a settings file add to nested tables. A table may be declared once, a value may be
set once, and what an inline value holds may not be extended; a step of a key that names an array
of tables leads into the last of them.
-/

namespace StyleTokens.Toml

/-- A dotted key. -/
abbrev Key := List String

/-- Tables, and what may no longer be declared or extended. -/
structure Tables where
  /-- The entries of the whole document so far. -/
  entries : Value.Entries
  /-- Keys that have been declared as tables. -/
  declared : List Key
  /-- Keys that dotted keys of the current table lead through; they count as declared afterwards. -/
  pending : List Key
  /-- Keys whose values are complete; nothing below them may change. -/
  closed : List Key

/-- No tables. -/
def Tables.empty : Tables := ⟨[], [], [], []⟩

/-- Changes the entries of the table at a key, which is made if it is not there; `none` when the
key leads through something else. -/
def changeAt (change : Value.Entries → Option Value.Entries) : Key → Value.Entries →
    Option Value.Entries
  | [], entries => change entries
  | name :: rest, entries =>
    match entries.get? name with
    | none => (changeAt change rest []).map fun inner => entries.insert (.str name) (.map inner)
    | some (.map inner) =>
      (changeAt change rest inner).map fun inner => entries.insert (.str name) (.map inner)
    | some (.list items) =>
      match items.getLast? with
      | some (.map inner) =>
        (changeAt change rest inner).map fun inner =>
          entries.insert (.str name) (.list (items.dropLast ++ [.map inner]))
      | _ => none
    | some _ => none

namespace Tables

/-- Whether a key lies at or below one whose value is complete. -/
def isClosed (tables : Tables) (key : Key) : Bool := tables.closed.any (·.isPrefixOf key)

/-- The tables with every pending key declared. -/
def settle (tables : Tables) : Tables :=
  { tables with declared := tables.pending ++ tables.declared, pending := [] }

/-- Declares a table. -/
def declare (tables : Tables) (key : Key) : Option Tables :=
  let settled := tables.settle
  if settled.declared.contains key || settled.isClosed key then none
  else
    (changeAt some key settled.entries).map fun entries =>
      { settled with entries, declared := key :: settled.declared }

/-- Adds a table to the end of an array of tables, which is made if it is not there. -/
def appendTable (name : String) (entries : Value.Entries) : Option Value.Entries :=
  match entries.get? name with
  | none => some (entries.insert (.str name) (.list [.map []]))
  | some (.list items) => some (entries.insert (.str name) (.list (items ++ [.map []])))
  | some _ => none

/-- Declares a further table of an array; what was said below the earlier ones no longer counts. -/
def declareItem (tables : Tables) (key : Key) : Option Tables :=
  let settled := tables.settle
  if settled.isClosed key then none
  else
    match key.getLast? with
    | none => none
    | some name =>
      (changeAt (appendTable name) key.dropLast settled.entries).map fun entries =>
        { entries
          declared := key :: settled.declared.filter fun other => !key.isPrefixOf other
          pending := []
          closed := settled.closed.filter fun other => !key.isPrefixOf other }

/-- A value put at a name that is not in use. -/
def setNew (name : String) (value : Value) (entries : Value.Entries) : Option Value.Entries :=
  if entries.has name then none else some (entries.insert (.str name) value)

/-- Sets a value in a table. The tables that a dotted key leads through may not have been
declared. -/
def assign (tables : Tables) (header key : Key) (value : Value) : Option Tables :=
  let through := (List.range (key.length - 1)).map fun k => header ++ key.take (k + 1)
  if through.any tables.declared.contains || tables.isClosed (header ++ key.dropLast) then none
  else
    match key.getLast? with
    | none => none
    | some name =>
      (changeAt (setNew name value) (header ++ key.dropLast) tables.entries).map fun entries =>
        { tables with
          entries
          pending := through ++ tables.pending
          closed :=
            match value with
            | .scalar _ => tables.closed
            | _ => (header ++ key) :: tables.closed }

end Tables

end StyleTokens.Toml
