import StyleTokens.Fault
import StyleTokens.Json.Parser
import StyleTokens.Json.Printer
import StyleTokens.Number.Reading

/-!
# Envelopes

A cached text is stored in an envelope: a JSON object with the text, the time at which it was put,
and for how many seconds it is good. Whatever else a store holds is read as far as it goes: numbers
may be written as texts, and a text whose time is missing or makes no sense is corrupt.
-/

namespace StyleTokens

/-- The document that a stored text is, if it is one. Lists and maps that stand in each other too
deeply are a fault, not a text of another kind. -/
def storedDocument? (text : String) : Except Fault (Option Value) :=
  match Json.parse text with
  | .ok value => .ok (some value)
  | .error (.unconvertible (.tooDeep isMap)) => .error (.unconvertible (.tooDeep isMap))
  | .error _ => .ok none

/-- A cached text with its time. -/
structure Envelope where
  /-- The text, as it was stored. -/
  value : Value
  /-- The time at which it was put. -/
  created : Binary64
  /-- For how many seconds it is good; zero means for ever. -/
  ttl : Int

namespace Envelope

/-- An envelope as a text. -/
def write (text : String) (created : Binary64) (ttl : Scalar) : String :=
  Json.render .ascii7
    (.ofFields [("value", .str text), ("created_at", .float created), ("ttl", .scalar ttl)])

/-- A number that may be written as a text, as a double. A value of another sort is none. -/
def doubleOf? : Value → Except Fault (Option Binary64)
  | .scalar (.str s) => .ok (Number.readFloat? s.toList)
  | .scalar s =>
    match s.number? with
    | some n =>
      match n.toBinary64? with
      | some x => .ok (some x)
      | none => .error .integerRange
    | none => .ok none
  | _ => .ok none

/-- A number that may be written as a text, as a whole number. What counts as false is zero; an
infinite number is no whole number. -/
def secondsOf? (value : Value) : Except Fault (Option Int) :=
  if !value.truthy then .ok (some 0)
  else
    match value with
    | .scalar (.str s) => .ok (Number.readInt? s.toList)
    | .scalar (.bool _) => .ok (some 1)
    | .scalar (.num (.int n)) => .ok (some n)
    | .scalar (.num (.float (.infinite _))) => .error .infinityToInteger
    | .scalar (.num (.float x)) => .ok x.truncate?
    | _ => .ok none

/-- Reads the fields of an envelope; one that is corrupt is none. -/
def ofEntries (entries : Value.Entries) : Except Fault (Option Envelope) := do
  match entries.get? "value", entries.get? "created_at" with
  | some value, some time =>
    match ← doubleOf? time with
    | none => return none
    | some created =>
      match ← secondsOf? (entries.get "ttl") with
      | none => return none
      | some ttl => return some ⟨value, created, ttl⟩
  | _, _ => return none

/-- Reads an envelope; one that is corrupt is none. -/
def read (text : String) : Except Fault (Option Envelope) := do
  match ← storedDocument? text with
  | some (.map entries) => ofEntries entries
  | _ => return none

/-- The time from which on an envelope is stale, if there is one. -/
def expiry (envelope : Envelope) : Except Fault (Option Number) :=
  if envelope.ttl = 0 then .ok none
  else
    match (Number.float envelope.created).add? (.int envelope.ttl) with
    | some time => .ok (some time)
    | none => .error .integerRange

end Envelope

end StyleTokens
