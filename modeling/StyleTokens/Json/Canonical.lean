import StyleTokens.Json.Printer
import StyleTokens.Json.Writable

/-!
# Canonical JSON

Two documents that differ only in the order of map entries have the same canonical text: every map
is written in the order of its keys. Keys that cannot be ordered, such as a number and a text, are
a fault.
-/

namespace StyleTokens.Json

/-- Whether two keys can be ordered: both are texts, or both are numbers or truth values. -/
def comparable (a b : Scalar) : Bool :=
  match a, b with
  | .str _, .str _ | .calendar _, .calendar _ => true
  | a, b => a.number?.isSome && b.number?.isSome

/-- Whether a key comes before another or is equal to it: texts by code points, numbers by
value. -/
def keyLe (a b : Scalar) : Bool :=
  match a, b with
  | .str s, .str t => decide (s ≤ t)
  | a, b =>
    match a.number?, b.number? with
    | some m, some n => m.le n
    | _, _ => true

/-- The first key that cannot be ordered with the one before it, if there is one. -/
def disorder? : List Scalar → Option (Scalar × Scalar)
  | a :: b :: rest => if comparable b a then disorder? (b :: rest) else some (b, a)
  | _ => none

/-- The entries of a map in the order of their keys. -/
def sortEntries (entries : Value.Entries) : Except Fault Value.Entries :=
  match disorder? (entries.map (·.1)) with
  | some (late, early) => .error (.unordered late.kind early.kind)
  | none => .ok (entries.mergeSort fun a b => keyLe a.1 b.1)

mutual

/-- A value with the entries of every map in the order of their keys. -/
def sorted : Value → Except Fault Value
  | .scalar s => .ok (.scalar s)
  | .list items => (sortedItems items).map .list
  | .map entries => do
    let inner ← sortedEntries entries
    return .map (← sortEntries inner)

/-- Every item sorted. -/
def sortedItems : List Value → Except Fault (List Value)
  | [] => .ok []
  | item :: rest => do
    let first ← sorted item
    return first :: (← sortedItems rest)

/-- The value of every entry sorted, the entries in their order. -/
def sortedEntries : List (Scalar × Value) → Except Fault (List (Scalar × Value))
  | [] => .ok []
  | (key, value) :: rest => do
    let first ← sorted value
    return (key, first) :: (← sortedEntries rest)

end

/-- The canonical text of a value. -/
def canonical (value : Value) : Except Fault String := do
  let v ← sorted value
  checkValue true v
  return render .canonical v

end StyleTokens.Json
