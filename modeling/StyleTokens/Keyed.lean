/-!
# Named things in order

A list of named things in the order in which the names first came up. A thing put under a name
that is already there replaces the earlier one where it stands.
-/

namespace StyleTokens

/-- Things with their names, in order. -/
abbrev Keyed (α : Type) := List (String × α)

namespace Keyed

variable {α : Type}

/-- A thing put under a name: an earlier one is replaced where it stands, a new name comes last. -/
def put (things : Keyed α) (name : String) (thing : α) : Keyed α :=
  match things with
  | [] => [(name, thing)]
  | (other, old) :: rest =>
    if other = name then (name, thing) :: rest else (other, old) :: Keyed.put rest name thing

/-- The thing under a name. -/
def find? (things : Keyed α) (name : String) : Option α :=
  (List.find? (fun entry => entry.1 == name) things).map (·.2)

/-- The names, in order. -/
def names (things : Keyed α) : List String := things.map (·.1)

/-- Things put under their names one after the other. -/
def ofList (pairs : List (String × α)) : Keyed α :=
  pairs.foldl (fun things (name, thing) => things.put name thing) []

end Keyed

end StyleTokens
