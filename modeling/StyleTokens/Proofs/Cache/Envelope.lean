import Mathlib.Algebra.GroupWithZero.Nat
import StyleTokens.Cache.Envelope
import StyleTokens.Cache.MemoryStore
import StyleTokens.Proofs.Json.RoundTrip
import StyleTokens.Proofs.Number.Range

/-!
# Lifetimes and envelopes

A lifetime of whole seconds is given away twice: to the store, and with the envelope. Both add it to
the time, and so both come to the same deadline. Neither can do so if the lifetime is past every
double. An envelope is a document, so it is read as what was written: the text, the time and the
lifetime.
-/

namespace StyleTokens

/-! ### Lifetimes -/

/-- A whole number can be added to a double exactly if it is in range. -/
theorem add?_float_int (x : Binary64) (n : Int) :
    (Number.float x).add? (.int n) =
      if InDoubleRange n then some (.float (x.add (.ofInt n))) else none := by
  by_cases hrange : InDoubleRange n
  · rw [if_pos hrange]
    simp [Number.add?, Number.toBinary64?, show (Binary64.ofInt n).isFinite = true from hrange]
  · rw [if_neg hrange]
    simp [Number.add?, Number.toBinary64?, show ¬(Binary64.ofInt n).isFinite = true from hrange]

/-- The time from which on a text is stale that was put at a time with a lifetime; one without a
lifetime never is. -/
def deadline (put : Binary64) (ttl : Int) : Option Number :=
  if ttl = 0 then none else some (.float (put.add (.ofInt ttl)))

/-- A lifetime as a store is given it. -/
def lifetimeOf (ttl : Int) : Option Scalar := if ttl = 0 then none else some (.num (.int ttl))

theorem lifetimeOf_eq (ttl : Int) :
    (if (Scalar.num (.int ttl)).truthy then some (Scalar.num (.int ttl)) else none) =
      lifetimeOf ttl := by
  unfold lifetimeOf
  by_cases hzero : ttl = 0 <;> simp [Scalar.truthy, Number.isZero, hzero]

/-- A text with a lifetime is forgotten at the sum of the time and the lifetime, if there is one. -/
theorem expiryOf_some {now : Binary64} {seconds : Number} (hzero : seconds.isZero = false) :
    expiryOf now (some (.num seconds)) =
      match (Number.float now).add? seconds with
      | some sum => .ok (some sum)
      | none => .error .integerRange := by
  cases hsum : (Number.float now).add? seconds <;>
    simp [expiryOf, Option.filter, Scalar.truthy, Scalar.number?, hzero, hsum]

/-- The store forgets a text at its deadline. -/
theorem expiryOf_lifetimeOf (now : Binary64) (ttl : Int) :
    expiryOf now (lifetimeOf ttl) =
      if InDoubleRange ttl then .ok (deadline now ttl) else .error .integerRange := by
  unfold lifetimeOf deadline
  by_cases hzero : ttl = 0
  · have hrange : InDoubleRange ttl := inDoubleRange_of_lt (by simp [hzero])
    rw [if_pos hzero, if_pos hzero, if_pos hrange]
    rfl
  · have hsome : (Number.int ttl).isZero = false := by simpa [Number.isZero] using hzero
    rw [if_neg hzero, if_neg hzero, expiryOf_some hsome, add?_float_int]
    by_cases hrange : InDoubleRange ttl
    · rw [if_pos hrange, if_pos hrange]
    · rw [if_neg hrange, if_neg hrange]

/-- An envelope is stale from the same deadline on. -/
theorem Envelope.expiry_eq (envelope : Envelope) :
    envelope.expiry =
      if InDoubleRange envelope.ttl then .ok (deadline envelope.created envelope.ttl)
      else .error .integerRange := by
  unfold Envelope.expiry deadline
  by_cases hzero : envelope.ttl = 0
  · have hrange : InDoubleRange envelope.ttl := inDoubleRange_of_lt (by simp [hzero])
    rw [if_pos hzero, if_pos hzero, if_pos hrange]
  · rw [if_neg hzero, if_neg hzero, add?_float_int]
    by_cases hrange : InDoubleRange envelope.ttl
    · rw [if_pos hrange, if_pos hrange]
    · rw [if_neg hrange, if_neg hrange]

/-- Whether an envelope is stale at a time. -/
def Envelope.isStale (envelope : Envelope) (now : Binary64) : Bool :=
  match deadline envelope.created envelope.ttl with
  | some time => time.le (.float now)
  | none => false

/-! ### Envelopes are read back -/

/-- A whole number of that range has few enough digits for a document. -/
theorem InDoubleRange.isAtom {n : Int} (h : InDoubleRange n) : Json.IsAtom (.num (.int n)) :=
  Nat.le_trans (Binary64.digitCount_le_of_isFinite h) (by decide)

namespace Envelope

/-- The fields of an envelope. -/
def fields (text : String) (created : Binary64) (ttl : Int) : Value.Entries :=
  [(.str "value", .str text), (.str "created_at", .float created), (.str "ttl", .int ttl)]

/-- An envelope is a document, and not a deep one. -/
theorem parse_write (text : String) (created : Binary64) {ttl : Int} (h : InDoubleRange ttl) :
    Json.parse (write text created (.num (.int ttl))) = .ok (.map (fields text created ttl)) := by
  have hdocument : Json.IsDocument (.map (fields text created ttl)) := by
    rw [Json.IsDocument]
    refine ⟨by simp [fields], ?_⟩
    simp [fields, Json.AreMembers, Json.IsDocument, h.isAtom]
    simp [Json.IsAtom]
  have hdepth : Json.depth (.map (fields text created ttl)) ≤ Json.depthLimit := by
    simp [fields, Json.depth, Json.depthOfMembers, Json.depthLimit]
  exact Json.parse_render Json.Style.isPlain_ascii7 hdocument hdepth

/-- A lifetime is read as it is. -/
theorem secondsOf?_int (ttl : Int) : secondsOf? (.int ttl) = .ok (some ttl) := by
  unfold secondsOf?
  by_cases hzero : ttl = 0
  · subst hzero
    rfl
  · rw [if_neg (by simp [Value.truthy, Scalar.truthy, Number.isZero, hzero])]

/-- An envelope is read as what was written. -/
theorem read_write (text : String) (created : Binary64) {ttl : Int} (h : InDoubleRange ttl) :
    read (write text created (.num (.int ttl))) = .ok (some ⟨.str text, created, ttl⟩) := by
  have hdocument : storedDocument? (write text created (.num (.int ttl))) =
      .ok (some (.map (fields text created ttl))) := by
    unfold storedDocument?
    rw [parse_write text created h]
  have hentries : ofEntries (fields text created ttl) = .ok (some ⟨.str text, created, ttl⟩) := by
    have hvalue : (fields text created ttl).get? "value" = some (.str text) := by
      simp [fields, Value.Entries.get?, Value.Entries.find?, Scalar.sameKey, Scalar.number?]
    have htime : (fields text created ttl).get? "created_at" = some (.float created) := by
      simp [fields, Value.Entries.get?, Value.Entries.find?, Scalar.sameKey, Scalar.number?]
    have httl : (fields text created ttl).get "ttl" = .int ttl := by
      simp [fields, Value.Entries.get, Value.Entries.get?, Value.Entries.find?, Scalar.sameKey,
        Scalar.number?]
    unfold ofEntries
    rw [hvalue, htime, httl, secondsOf?_int]
    rfl
  unfold read
  exact bind_eq_ok_iff.mpr ⟨_, hdocument, hentries⟩

end Envelope

end StyleTokens
