import StyleTokens.Fault
import StyleTokens.Json.Parser
import StyleTokens.Json.Printer
import StyleTokens.Value.Written

/-!
# What JSON can hold

JSON has no days and times. They may be written as texts where that is wanted, but never as keys.
Nor can a value be written and read back if it holds a whole number that is too long, or lists and
maps that stand in each other too deeply. What is read back has texts as keys, and is the same
otherwise.
-/

namespace StyleTokens.Json

/-- Demands that a scalar can be written. -/
def checkScalar (timesAsText : Bool) (s : Scalar) : Except Fault Unit :=
  match s with
  | .calendar _ => if timesAsText then .ok () else .error (.notJson s.kind)
  | _ => .ok ()

/-- Demands that a key can be written. -/
def checkKey (s : Scalar) : Except Fault Unit :=
  match s with
  | .calendar _ => .error (.notJsonKey s.kind)
  | _ => .ok ()

mutual

/-- Demands that a value can be written. -/
def checkValue (timesAsText : Bool) : Value → Except Fault Unit
  | .scalar s => checkScalar timesAsText s
  | .list items => checkItems timesAsText items
  | .map entries => checkEntries timesAsText entries

/-- Demands that items can be written. -/
def checkItems (timesAsText : Bool) : List Value → Except Fault Unit
  | [] => .ok ()
  | item :: rest => do
    checkValue timesAsText item
    checkItems timesAsText rest

/-- Demands that entries can be written. -/
def checkEntries (timesAsText : Bool) : List (Scalar × Value) → Except Fault Unit
  | [] => .ok ()
  | (key, value) :: rest => do
    checkKey key
    checkValue timesAsText value
    checkEntries timesAsText rest

end

/-! ### Values as JSON has them -/

/-- The report on lists and maps that stand in each other too deeply. -/
def tooDeepToWrite : Fault := .unconvertible (.tooManyCalls .encoding)

mutual

/-- Demands that a value can be written, with room for so many lists and maps in each other. -/
def demandValue (room : Nat) : Value → Except Fault Unit
  | .scalar s => do
    checkScalar false s
    writeKeys [s]
  | .list items => if room = 0 then .error tooDeepToWrite else demandItems (room - 1) items
  | .map entries => if room = 0 then .error tooDeepToWrite else demandEntries (room - 1) entries

/-- Demands that items can be written. -/
def demandItems (room : Nat) : List Value → Except Fault Unit
  | [] => .ok ()
  | item :: rest => do
    demandValue room item
    demandItems room rest

/-- Demands that entries can be written. -/
def demandEntries (room : Nat) : List (Scalar × Value) → Except Fault Unit
  | [] => .ok ()
  | (key, value) :: rest => do
    checkKey key
    writeKeys [key]
    demandValue room value
    demandEntries room rest

end

/-- The text that a key is written as. -/
def writtenName : Scalar → String
  | .str name => name
  | key => String.ofList (scalarText false key)

mutual

/-- A value that was written and read back. -/
def reread : Value → Value
  | .scalar s => .scalar s
  | .list items => .list (rereadItems items)
  | .map entries => .map (Value.Entries.ofPairs (rereadEntries entries))

/-- Items that were written and read back. -/
def rereadItems : List Value → List Value
  | [] => []
  | item :: rest => reread item :: rereadItems rest

/-- Entries that were written and read back, those under a repeated name among them. -/
def rereadEntries : List (Scalar × Value) → List (Scalar × Value)
  | [] => []
  | (key, value) :: rest => (.str (writtenName key), reread value) :: rereadEntries rest

end

/-- Writes a value and reads it back. -/
def rewritten (value : Value) : Except Fault Value := do
  demandValue depthLimit value
  return reread value

end StyleTokens.Json
