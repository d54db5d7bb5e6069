import StyleTokens.Fault

/-!
# Values as sequences

Where a sequence is wanted, unchecked data is read as the items that it consists of; where a map is
wanted, a sequence of pairs will do.
-/

namespace StyleTokens

/-- The texts among items that all have to be texts; `index` is the place of the first. -/
def textItems (index : Nat) : List Value → Except Fault (List String)
  | [] => .ok []
  | item :: rest =>
    match item.text? with
    | some text => (textItems (index + 1) rest).map (text :: ·)
    | none => .error (.itemNotText index item.kind)

/-- The items that a value consists of: those of a list, the keys of a map, the characters of a
text. -/
def itemsOfValue : Value → Except Fault (List Value)
  | .list items => .ok items
  | .map entries => .ok (entries.map fun entry => .scalar entry.1)
  | .scalar (.str s) => .ok (s.toList.map fun c => .str (String.ofList [c]))
  | other => .error (.notIterable other.kind)

/-- The pair that an item of a sequence is. -/
def pairOfItem (index : Nat) (item : Value) : Except Fault (Scalar × Value) :=
  match itemsOfValue item with
  | .error _ => .error (.itemNotPair index)
  | .ok [.scalar key, value] => .ok (key, value)
  | .ok [key, _] => .error (.unhashable key.kind)
  | .ok items => .error (.pairLength index items.length)

/-- The pairs that the items of a sequence are; `index` is the place of the first. -/
def pairsOfItems (index : Nat) : List Value → Except Fault (List (Scalar × Value))
  | [] => .ok []
  | item :: rest => do
    let pair ← pairOfItem index item
    return pair :: (← pairsOfItems (index + 1) rest)

/-- The entries that unchecked data gives for a map: those of a map, or the pairs of a sequence;
what counts as false gives none. -/
def entriesOfValue (value : Value) : Except Fault Value.Entries :=
  if !value.truthy then .ok []
  else
    match value with
    | .map entries => .ok entries
    | other => do
      let items ← itemsOfValue other
      return Value.Entries.ofPairs (← pairsOfItems 0 items)

end StyleTokens
