import StyleTokens.Yaml.Scalar

/-!
# Nodes

A document is read as a tree of nodes before any of it is converted to a value: what stands in the
document decides whether it is well formed, and only a well-formed document is converted.
-/

namespace StyleTokens.Yaml

/-- A part of a document as it stands there. -/
inductive Node where
  /-- A plain scalar by its spelling; an empty one stands for a missing node. -/
  | plain (text : List Char)
  /-- A quoted text. -/
  | quoted (text : List Char)
  /-- A list. -/
  | list (items : List Node)
  /-- A map, its entries as they stand there. -/
  | map (pairs : List (Node × Node))

namespace Node

/-- The node that stands where nothing is written. -/
def missing : Node := .plain []

/-- The value of a plain scalar; the marks of merged maps and of default values are none. -/
def plainValue (text : List Char) : Except Refusal Scalar :=
  if text = ['='] ∨ text = ['<', '<'] then .error .malformed else plainScalar text

/-- The key that a node is. Collections are none; the mark of a default value is a text here. -/
def key : Node → Except Refusal Scalar
  | .plain text => if text = ['='] then .ok (.str "=") else plainValue text
  | .quoted text => .ok (.str (String.ofList text))
  | .list _ | .map _ => .error .malformed

mutual

/-- The value that a node denotes. Of entries with one key the last counts, in the first one's
place. -/
def toValue : Node → Except Refusal Value
  | .plain text => (plainValue text).map .scalar
  | .quoted text => .ok (.str (String.ofList text))
  | .list items => (toItems items).map .list
  | .map pairs => (toEntries pairs).map fun entries => .map (Value.Entries.ofPairs entries)

/-- The values that nodes denote. -/
def toItems : List Node → Except Refusal (List Value)
  | [] => .ok []
  | item :: rest => do
    let value ← item.toValue
    let values ← toItems rest
    return value :: values

/-- The keys and values that pairs of nodes denote. -/
def toEntries : List (Node × Node) → Except Refusal (List (Scalar × Value))
  | [] => .ok []
  | (name, node) :: rest => do
    let key ← name.key
    let value ← node.toValue
    let entries ← toEntries rest
    return (key, value) :: entries

end

end Node

end StyleTokens.Yaml
