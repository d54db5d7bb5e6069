import StyleTokens.Text.Hex

/-!
# UTF-8

Bytes are decoded strictly; the first fault is reported with its position, its extent and its
cause. A sequence that the input ends within, a byte that starts no sequence and a byte that
cannot continue one are told apart.
-/

namespace StyleTokens.Text

/-- Why bytes are no UTF-8. -/
inductive Utf8Cause where
  /-- The byte starts no sequence. -/
  | invalidStart
  /-- A byte of the sequence cannot stand where it does. -/
  | invalidContinuation
  /-- The input ends within a sequence. -/
  | unexpectedEnd
  deriving DecidableEq, Repr

/-- The wording of a cause. -/
def Utf8Cause.message : Utf8Cause → String
  | .invalidStart => "invalid start byte"
  | .invalidContinuation => "invalid continuation byte"
  | .unexpectedEnd => "unexpected end of data"

/-- The first place where bytes are no UTF-8. -/
structure Utf8Fault where
  /-- The position of the first byte of the faulty sequence. -/
  position : Nat
  /-- That byte. -/
  first : Nat
  /-- How many bytes the fault spans. -/
  span : Nat
  /-- What is wrong with them. -/
  cause : Utf8Cause
  deriving DecidableEq, Repr

/-- The report of a fault. -/
def Utf8Fault.message (fault : Utf8Fault) : String :=
  let place :=
    if fault.span = 1 then
      "byte 0x" ++ String.ofList (hexDigits 2 fault.first) ++ " in position " ++
        toString fault.position
    else
      "bytes in position " ++ toString fault.position ++ "-" ++
        toString (fault.position + fault.span - 1)
  "'utf-8' codec can't decode " ++ place ++ ": " ++ fault.cause.message

/-- Whether a byte is a continuation byte. -/
def isTail (b : Nat) : Bool := 0x80 ≤ b && b ≤ 0xBF

/-- The bounds of the second byte of a sequence, by its first: they rule out overlong forms,
surrogates and numbers past the last code point. -/
def secondBounds (first : Nat) : Nat × Nat :=
  if first = 0xE0 then (0xA0, 0xBF)
  else if first = 0xED then (0x80, 0x9F)
  else if first = 0xF0 then (0x90, 0xBF)
  else if first = 0xF4 then (0x80, 0x8F)
  else (0x80, 0xBF)

/-- How many bytes a sequence that starts with the given byte has, if one can. -/
def sequenceLength? (first : Nat) : Option Nat :=
  if first < 0x80 then some 1
  else if 0xC2 ≤ first ∧ first ≤ 0xDF then some 2
  else if 0xE0 ≤ first ∧ first ≤ 0xEF then some 3
  else if 0xF0 ≤ first ∧ first ≤ 0xF4 then some 4
  else none

/-- Reads one character: its code point and how many bytes it takes, or the span and the cause of
the fault. -/
def decodeOne (first : Nat) (rest : List Nat) : Except (Nat × Utf8Cause) (Nat × Nat) :=
  let inBounds (b : Nat) : Bool := (secondBounds first).1 ≤ b && b ≤ (secondBounds first).2
  match sequenceLength? first, rest with
  | none, _ => .error (1, .invalidStart)
  | some 1, _ => .ok (first, 1)
  | some _, [] => .error (1, .unexpectedEnd)
  | some 2, b :: _ =>
    if inBounds b then .ok ((first - 0xC0) * 64 + (b - 0x80), 2)
    else .error (1, .invalidContinuation)
  | some n, b :: more =>
    if !inBounds b then .error (1, .invalidContinuation)
    else
      match n, more with
      | _, [] => .error (2, .unexpectedEnd)
      | 3, c :: _ =>
        if isTail c then .ok ((first - 0xE0) * 4096 + (b - 0x80) * 64 + (c - 0x80), 3)
        else .error (2, .invalidContinuation)
      | _, c :: tail =>
        if !isTail c then .error (2, .invalidContinuation)
        else
          match tail with
          | [] => .error (3, .unexpectedEnd)
          | d :: _ =>
            if isTail d then
              .ok ((first - 0xF0) * 262144 + (b - 0x80) * 4096 + (c - 0x80) * 64 + (d - 0x80), 4)
            else .error (3, .invalidContinuation)

/-- Decodes bytes from a position on; `skip` bytes of the character before are still to pass. -/
def decodeUtf8From (position skip : Nat) : List Nat → Except Utf8Fault (List Char)
  | [] => .ok []
  | first :: rest =>
    match skip with
    | skip + 1 => decodeUtf8From (position + 1) skip rest
    | 0 =>
      match decodeOne first rest with
      | .error (span, cause) => .error ⟨position, first, span, cause⟩
      | .ok (code, length) =>
        (decodeUtf8From (position + 1) (length - 1) rest).map (Char.ofNat code :: ·)

/-- The text that bytes encode, or the first fault. -/
def decodeUtf8 (bytes : List UInt8) : Except Utf8Fault String :=
  (decodeUtf8From 0 0 (bytes.map UInt8.toNat)).map String.ofList

/-- The bytes that encode a text. -/
def encodeUtf8 (text : String) : List UInt8 := text.toUTF8.toList

end StyleTokens.Text
