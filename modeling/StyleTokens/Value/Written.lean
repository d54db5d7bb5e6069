import StyleTokens.Fault
import StyleTokens.Value.Display

/-!
# Writing values that may be too large

A value from outside is written as a text only if it is not too large: whole numbers have a limit
to their digits, and lists and maps one to their depth.
-/

namespace StyleTokens

/-- Why a scalar cannot be written. -/
def Scalar.writeProblem? : Scalar → Option ConversionProblem
  | .num (.int n) => if digitLimit < digitCount n.natAbs then some .unwritable else none
  | _ => none

/-- A scalar by itself, unless it is too large. -/
def Scalar.written (s : Scalar) : Except Fault String :=
  match s.writeProblem? with
  | some problem => .error (.unconvertible problem)
  | none => .ok s.display

/-- Keys are written one after the other, unless one of them is too large. -/
def writeKeys (keys : List Scalar) : Except Fault Unit :=
  match keys.findSome? Scalar.writeProblem? with
  | some problem => .error (.unconvertible problem)
  | none => .ok ()

mutual

/-- The first reason in reading order why a value cannot be written, with room for so many calls in
each other. -/
def Value.writeProblem? (room : Nat) : Value → Option ConversionProblem
  | .scalar s => s.writeProblem?
  | .list items =>
    if room = 0 then some (.tooManyCalls .showing) else Value.itemsWriteProblem? (room - 1) items
  | .map entries =>
    if room = 0 then some (.tooManyCalls .showing) else Value.entriesWriteProblem? (room - 1) entries

/-- The first reason why items cannot be written. -/
def Value.itemsWriteProblem? (room : Nat) : List Value → Option ConversionProblem
  | [] => none
  | item :: rest => (item.writeProblem? room).or (Value.itemsWriteProblem? room rest)

/-- The first reason why entries cannot be written. -/
def Value.entriesWriteProblem? (room : Nat) :
    List (Scalar × Value) → Option ConversionProblem
  | [] => none
  | (key, value) :: rest =>
    (key.writeProblem?.or (value.writeProblem? room)).or (Value.entriesWriteProblem? room rest)

end

/-- A value by itself, unless it is too large. -/
def Value.written (value : Value) : Except Fault String :=
  match value.writeProblem? callLimit with
  | some problem => .error (.unconvertible problem)
  | none => .ok value.display

end StyleTokens
