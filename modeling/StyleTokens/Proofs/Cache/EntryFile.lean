import StyleTokens.Cache.FileStore
import StyleTokens.Proofs.Digest.Sha256
import StyleTokens.Proofs.Files.Directory
import StyleTokens.Proofs.Json.RoundTrip
import StyleTokens.Proofs.Text.Utf8

/-!
# Files of entries

The file of an entry has a name of its own, and says of the entry what was put: its key, its text
and whether it is over.
-/

namespace StyleTokens

/-- The sum of a double and a number is a double. -/
theorem exists_float_of_add? {x : Binary64} {n sum : Number}
    (h : (Number.float x).add? n = some sum) : ∃ y, sum = .float y := by
  obtain ⟨y, -, hsum⟩ := Option.bind_eq_some_iff.mp h
  cases hsum
  exact ⟨_, rfl⟩

/-- The time of expiry of what is put is a double, if there is one. -/
theorem exists_float_of_expiryOf {now : Binary64} {ttl : Option Scalar} {time : Number}
    (h : expiryOf now ttl = .ok (some time)) : ∃ y, time = .float y := by
  unfold expiryOf at h
  split at h
  · cases h
  · split at h
    · cases h
    · split at h
      · rename_i hsum
        cases h
        exact exists_float_of_add? hsum
      · cases h

/-- A document can hold the time of expiry of an entry. -/
def MemoryEntry.IsWritable (entry : MemoryEntry) : Prop :=
  ∀ time, entry.expires = some time → Json.IsAtom (.num time)

/-- What is put can be written. -/
theorem isWritable_of_expiryOf {now : Binary64} {ttl : Option Scalar} {expires : Option Number}
    (h : expiryOf now ttl = .ok expires) (text : String) :
    MemoryEntry.IsWritable ⟨text, expires⟩ := by
  rintro time rfl
  obtain ⟨y, rfl⟩ := exists_float_of_expiryOf h
  trivial

namespace FileStore

/-- The name of a key's file. -/
def fileName (key : String) : String := stem key ++ ".json"

/-- Two keys with the same file have the same digest. -/
theorem stem_eq_of_fileName_eq {key other : String} (h : fileName key = fileName other) :
    stem key = stem other :=
  (String.append_left_inj ".json").mp h

/-- A digest with a short ending is the name of a file. -/
theorem isFileName_stem_append (key : String) {ending : String} (hslash : '/' ∉ ending.toList)
    (hnull : '\x00' ∉ ending.toList) (hsize : ending.utf8ByteSize ≤ 191) :
    IsFileName (stem key ++ ending) where
  not_special h := by
    have hlength : 64 ≤ (stem key ++ ending).toList.length := by simp [stem]
    simp only [List.mem_cons, List.not_mem_nil, or_false] at h
    rcases h with h | h | h <;> rw [h] at hlength <;> simp at hlength
  no_slash := by
    rw [String.toList_append, List.mem_append, not_or]
    exact ⟨Sha256.not_mem_ofText (by decide) key, hslash⟩
  no_null := by
    rw [String.toList_append, List.mem_append, not_or]
    exact ⟨Sha256.not_mem_ofText (by decide) key, hnull⟩
  size_le := by
    rw [String.utf8ByteSize_append, stem, Sha256.utf8ByteSize_ofText]
    exact Nat.add_le_add_left hsize 64

theorem isFileName_fileName (key : String) : IsFileName (fileName key) :=
  isFileName_stem_append key (by decide) (by decide) (by decide)

theorem isFileName_stagedName (key : String) : IsFileName (FileTree.stagedName (stem key)) :=
  isFileName_stem_append key (by decide) (by decide) (by decide)

/-- The file of a key is one of those that are looked through when keys are forgotten. -/
theorem endsWith_fileName (key : String) : (fileName key).endsWith ".json" = true := by
  rw [String.endsWith, String.Slice.endsWith_string_iff, String.copy_toSlice, fileName,
    String.toList_append]
  exact List.suffix_append _ _

/-- The file of a key is none that was staged. -/
theorem fileName_ne_stagedName (key stem : String) : fileName key ≠ FileTree.stagedName stem := by
  intro h
  have hlast : (fileName key).toList.getLast? = (FileTree.stagedName stem).toList.getLast? := by
    rw [h]
  simp [fileName, FileTree.stagedName] at hlast

/-- What the file of an entry says. -/
def fields (key : String) (entry : MemoryEntry) : Value.Entries :=
  [(.str "key", .str key), (.str "value", .str entry.text),
    (.str "expires_at", entry.expires.elim .null .num)]

/-- The file of an entry. -/
def fileOf (key : String) (entry : MemoryEntry) : List UInt8 :=
  entryBytes key entry.text entry.expires

variable {entry : MemoryEntry}

theorem fileOf_eq (key : String) (entry : MemoryEntry) :
    fileOf key entry = Text.encodeUtf8 (Json.render .ascii7 (.map (fields key entry))) := by
  obtain ⟨text, expires⟩ := entry
  cases expires <;> rfl

/-- The file of an entry is a document, and not a deep one. -/
theorem parse_fields (h : entry.IsWritable) (key : String) :
    Json.parse (Json.render .ascii7 (.map (fields key entry))) = .ok (.map (fields key entry)) := by
  have htime : ∃ time, entry.expires.elim Value.null .num = .scalar time ∧ Json.IsAtom time := by
    cases hexpires : entry.expires with
    | none => exact ⟨.null, rfl, trivial⟩
    | some time => exact ⟨.num time, rfl, h time hexpires⟩
  obtain ⟨time, htime, hatom⟩ := htime
  have hdocument : Json.IsDocument (.map (fields key entry)) := by
    rw [Json.IsDocument]
    refine ⟨by simp [fields], ?_⟩
    simp [fields, htime, Json.AreMembers, Json.IsDocument, hatom]
    simp [Json.IsAtom]
  have hdepth : Json.depth (.map (fields key entry)) ≤ Json.depthLimit := by
    simp [fields, htime, Json.depth, Json.depthOfMembers, Json.depthLimit]
  exact Json.parse_render Json.Style.isPlain_ascii7 hdocument hdepth

/-- The file of an entry is read as what was written. -/
theorem documentOf?_fileOf (h : entry.IsWritable) (key : String) :
    documentOf? (fileOf key entry) = .ok (some (.map (fields key entry))) := by
  unfold documentOf? storedDocument?
  rw [fileOf_eq, Text.decodeUtf8_encodeUtf8]
  simp only [parse_fields h key]

theorem get?_fields_key (key : String) (entry : MemoryEntry) :
    (fields key entry).get? "key" = some (.str key) := by
  simp [fields, Value.Entries.get?, Value.Entries.find?, Scalar.sameKey, Scalar.number?]

theorem get_fields_value (key : String) (entry : MemoryEntry) :
    (fields key entry).get "value" = .str entry.text := by
  simp [fields, Value.Entries.get, Value.Entries.get?, Value.Entries.find?, Scalar.sameKey,
    Scalar.number?]

theorem get_fields_expires (key : String) (entry : MemoryEntry) :
    (fields key entry).get "expires_at" = entry.expires.elim .null .num := by
  simp [fields, Value.Entries.get, Value.Entries.get?, Value.Entries.find?, Scalar.sameKey,
    Scalar.number?]

/-- The file of an entry tells when it is over. -/
theorem isOver?_fields (now : Binary64) (key : String) (entry : MemoryEntry) :
    isOver? now ((fields key entry).get "expires_at") = some (entry.isExpired now) := by
  rw [get_fields_expires]
  unfold MemoryEntry.isExpired
  cases entry.expires <;> rfl

/-- The file of an entry gives its text until it is over. -/
theorem readEntry_fileOf (h : entry.IsWritable) (now : Binary64) (key : String) :
    readEntry now (fileOf key entry) =
      .ok (if entry.isExpired now then .expired else .text entry.text) := by
  unfold readEntry
  rw [documentOf?_fileOf h, ok_bind]
  simp only [isOver?_fields, get_fields_value]
  cases entry.isExpired now <;> rfl

/-- The file of an entry goes with the keys that begin as its key does. -/
theorem isDoomed_fileOf (h : entry.IsWritable) (start key : String) :
    isDoomed start (fileOf key entry) = .ok (key.startsWith start) := by
  unfold isDoomed
  rw [documentOf?_fileOf h, ok_bind]
  simp only [get?_fields_key]
  rfl

end FileStore

end StyleTokens
