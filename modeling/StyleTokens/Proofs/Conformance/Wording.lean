import StyleTokens.Proofs.Conformance.Accounting
import StyleTokens.Proofs.Preset.Reading

/-!
# What goes wrong in a case is told in words

A case that fails is reported with the message of its fault. Each fault that an operation can come
to has a message, so that a reported error can be told from none.
-/

namespace StyleTokens

open Conformance

/-! ### Messages -/

/-- The faults that data, numbers and files come to. Their messages have words of their own, other
than those of settings, backends and generators, which pass on what they are given. -/
def Fault.isOfData : Fault → Bool
  | .noOperation .. | .noEntries _ | .notIterable _ | .unhashable _ | .notPath _ | .notText _
  | .itemNotText .. | .absentKey (.str _) | .infiniteNumber | .integerRange | .unconvertible _
  | .notJson _ | .notJsonKey _ | .unknownSide _ | .unknownCategory _ | .invalid [_]
  | .file _ => true
  | _ => false

/-- Whatever goes wrong in a computation is a fault of data, and so it has a message. -/
def FailsByData {α : Type} (outcome : Except Fault α) : Prop :=
  ∀ fault, outcome = .error fault → fault.isOfData = true

section Steps

variable {α β ν : Type}

theorem failsByData_ok (a : α) : FailsByData (.ok a) := fun _ hfault => nomatch hfault

theorem failsByData_error {fault : Fault} (h : fault.isOfData = true) :
    FailsByData (.error fault : Except Fault α) := by
  rintro _ ⟨⟩
  exact h

/-- A computation that goes on fails by data only, if both of its parts do. -/
theorem FailsByData.bind {first : Except Fault α} {rest : α → Except Fault β}
    (hfirst : FailsByData first) (hrest : ∀ a, FailsByData (rest a)) :
    FailsByData (first >>= rest) := by
  intro fault hfault
  rcases bind_eq_error_iff.mp hfault with hfault | ⟨a, -, hfault⟩
  · exact hfirst fault hfault
  · exact hrest a fault hfault

/-- A computation whose result is changed fails by data only, if it does so itself. -/
theorem FailsByData.map {first : Except Fault α} (f : α → β) (hfirst : FailsByData first) :
    FailsByData (first.map f) :=
  fun fault hfault => hfirst fault (map_eq_error_iff.mp hfault)

/-- A list of computations fails by data only, if each of them does. -/
theorem FailsByData.mapM {f : α → Except Fault β} (h : ∀ input, FailsByData (f input))
    (inputs : List α) : FailsByData (inputs.mapM f) := by
  induction inputs with
  | nil => exact failsByData_ok []
  | cons input inputs ih =>
    rw [List.mapM_cons]
    exact (h input).bind fun output => ih.bind fun outputs => failsByData_ok _

/-- A computation with notes that goes on fails by data only, if both of its parts do. -/
theorem FailsByData.andThen {first : Noted ν α} {rest : α → Noted ν β}
    (hfirst : FailsByData first.outcome) (hrest : ∀ a, FailsByData (rest a).outcome) :
    FailsByData (first >>= rest).outcome := by
  rw [Noted.outcome_bind]
  exact hfirst.bind hrest

end Steps

/-! ### Operations -/

theorem failsByData_writeKeys (keys : List Scalar) : FailsByData (writeKeys keys) := by
  unfold writeKeys
  split
  · exact failsByData_error rfl
  · exact failsByData_ok _

mutual

theorem failsByData_demandValue (room : Nat) (value : Value) :
    FailsByData (Json.demandValue room value) := by
  match value with
  | .scalar s =>
    refine FailsByData.bind ?_ fun _ => failsByData_writeKeys _
    unfold Json.checkScalar
    split
    · exact failsByData_error rfl
    · exact failsByData_ok _
  | .list items =>
    rw [Json.demandValue]
    split
    · exact failsByData_error rfl
    · exact failsByData_demandItems _ _
  | .map entries =>
    rw [Json.demandValue]
    split
    · exact failsByData_error rfl
    · exact failsByData_demandEntries _ _

theorem failsByData_demandItems (room : Nat) (items : List Value) :
    FailsByData (Json.demandItems room items) := by
  match items with
  | [] => exact failsByData_ok _
  | item :: rest =>
    rw [Json.demandItems]
    exact (failsByData_demandValue _ _).bind fun _ => failsByData_demandItems _ _

theorem failsByData_demandEntries (room : Nat) (entries : List (Scalar × Value)) :
    FailsByData (Json.demandEntries room entries) := by
  match entries with
  | [] => exact failsByData_ok _
  | (key, value) :: rest =>
    rw [Json.demandEntries]
    refine FailsByData.bind ?_ fun _ => (failsByData_writeKeys _).bind fun _ => ?_
    · unfold Json.checkKey
      split
      · exact failsByData_error rfl
      · exact failsByData_ok _
    · exact (failsByData_demandValue _ _).bind fun _ => failsByData_demandEntries _ _

end

end StyleTokens
