import StyleTokens.Json.Writable
import StyleTokens.Proofs.Json.RoundTrip
import StyleTokens.Proofs.Value.Entries

/-!
# Documents that are written and read back

A document that is not too deep can be written, and it is the same when it is read back. Lists that
stand in each other too deeply can neither be written nor be read.
-/

namespace StyleTokens.Json

/-- A scalar of a document can be written. -/
theorem writeKeys_of_isAtom {s : Scalar} (h : IsAtom s) : writeKeys [s] = .ok () := by
  unfold writeKeys
  rw [List.findSome?_cons, List.findSome?_nil]
  cases s with
  | num n =>
    cases n with
    | int k =>
      have hshort : ¬digitLimit < digitCount k.natAbs := Nat.not_lt.mpr h
      simp [Scalar.writeProblem?, hshort]
    | float x => rfl
  | _ => rfl

/-- A scalar of a document is no day and no time. -/
theorem checkScalar_of_isAtom {s : Scalar} (h : IsAtom s) : checkScalar false s = .ok () := by
  cases s with
  | calendar => cases h
  | _ => rfl

mutual

/-- A document that is not too deep can be written. -/
theorem demandValue_of_isDocument {room : Nat} {v : Value} (h : IsDocument v)
    (hroom : depth v ≤ room) : demandValue room v = .ok () := by
  match v with
  | .scalar s =>
    rw [demandValue, checkScalar_of_isAtom h, ok_bind, writeKeys_of_isAtom h]
  | .list items =>
    rw [IsDocument] at h
    rw [depth] at hroom
    rw [demandValue, if_neg (by omega)]
    exact demandItems_of_areDocuments h (by omega)
  | .map entries =>
    rw [IsDocument] at h
    rw [depth] at hroom
    rw [demandValue, if_neg (by omega)]
    exact demandEntries_of_areMembers h.2 (by omega)

/-- Documents that are not too deep can be written. -/
theorem demandItems_of_areDocuments {room : Nat} {items : List Value} (h : AreDocuments items)
    (hroom : depthOfItems items ≤ room) : demandItems room items = .ok () := by
  match items with
  | [] => rw [demandItems]
  | item :: rest =>
    rw [AreDocuments] at h
    rw [depthOfItems] at hroom
    rw [demandItems, demandValue_of_isDocument h.1 (by omega), ok_bind]
    exact demandItems_of_areDocuments h.2 (by omega)

/-- The entries of a document that is not too deep can be written. -/
theorem demandEntries_of_areMembers {room : Nat} {entries : List (Scalar × Value)}
    (h : AreMembers entries) (hroom : depthOfMembers entries ≤ room) :
    demandEntries room entries = .ok () := by
  match entries with
  | [] => rw [demandEntries]
  | (key, value) :: rest =>
    rw [AreMembers] at h
    rw [depthOfMembers] at hroom
    obtain ⟨⟨name, rfl⟩, hvalue, hrest⟩ := h
    have hkey : checkKey (.str name) = .ok () := rfl
    have hshort : writeKeys [.str name] = .ok () := rfl
    rw [demandEntries, hkey, ok_bind, hshort, ok_bind,
      demandValue_of_isDocument hvalue (by omega), ok_bind]
    exact demandEntries_of_areMembers hrest (by omega)

end

mutual

/-- A document is the same when it is read back. -/
theorem reread_of_isDocument {v : Value} (h : IsDocument v) : reread v = v := by
  match v with
  | .scalar s => rw [reread]
  | .list items =>
    rw [IsDocument] at h
    rw [reread, rereadItems_of_areDocuments h]
  | .map entries =>
    rw [IsDocument] at h
    have hkeys : ∀ entry ∈ entries, ∃ name, entry.1 = .str name := fun entry hentry =>
      (areMembers_iff.mp h.2 entry hentry).1
    rw [reread, rereadEntries_of_areMembers h.2, Value.Entries.ofPairs_of_nodup hkeys h.1]

/-- Documents are the same when they are read back. -/
theorem rereadItems_of_areDocuments {items : List Value} (h : AreDocuments items) :
    rereadItems items = items := by
  match items with
  | [] => rw [rereadItems]
  | item :: rest =>
    rw [AreDocuments] at h
    rw [rereadItems, reread_of_isDocument h.1, rereadItems_of_areDocuments h.2]

/-- The entries of a document are the same when they are read back. -/
theorem rereadEntries_of_areMembers {entries : List (Scalar × Value)} (h : AreMembers entries) :
    rereadEntries entries = entries := by
  match entries with
  | [] => rw [rereadEntries]
  | (key, value) :: rest =>
    rw [AreMembers] at h
    obtain ⟨⟨name, rfl⟩, hvalue, hrest⟩ := h
    rw [rereadEntries, writtenName, reread_of_isDocument hvalue, rereadEntries_of_areMembers hrest]

end

end StyleTokens.Json
