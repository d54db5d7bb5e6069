import Mathlib.Data.List.Nodup
import StyleTokens.Value.Items

/-!
# Entries under texts

A text is the same key as itself and as nothing else. Entries whose keys are texts, each of them
once, stay as they are when they are put into a map one after the other. Items that are texts are
those texts.
-/

namespace StyleTokens

/-- A value that is a text is that text. -/
theorem Value.text?_eq_some_iff {value : Value} {text : String} :
    value.text? = some text ↔ value = .str text := by
  cases value with
  | scalar s => cases s <;> simp [Value.text?]
  | list items => simp [Value.text?]
  | map entries => simp [Value.text?]

/-- Items that are texts are those texts. -/
theorem textItems_map_str (index : Nat) (texts : List String) :
    textItems index (texts.map .str) = .ok texts := by
  induction texts generalizing index with
  | nil => rfl
  | cons text rest ih => exact congrArg (Except.map (text :: ·)) (ih (index + 1))

/-- A key is the same as a text only if it is that text. -/
theorem sameKey_str_iff {key : Scalar} {slug : String} :
    key.sameKey (.str slug) = true ↔ key = .str slug := by
  cases key <;> simp [Scalar.sameKey, Scalar.number?]

/-- A text is the same key as another one only if that is the text. -/
theorem str_sameKey_iff {key : Scalar} {slug : String} :
    (Scalar.str slug).sameKey key = true ↔ key = .str slug := by
  cases key with
  | str other =>
    simp only [Scalar.sameKey, Scalar.number?, beq_iff_eq]
    exact eq_comm
  | _ => simp [Scalar.sameKey, Scalar.number?]

/-- A text among the keys has an entry. -/
theorem find?_eq_some_of_mem {entries : Value.Entries} {slug : String}
    (h : Scalar.str slug ∈ entries.map (·.1)) : ∃ raw, entries.find? (.str slug) = some raw := by
  obtain ⟨entry, hentry, hkey⟩ := List.mem_map.mp h
  unfold Value.Entries.find?
  cases hfound : List.find? (fun entry => entry.1.sameKey (.str slug)) entries with
  | some found => exact ⟨found.2, rfl⟩
  | none => exact absurd (sameKey_str_iff.mpr hkey) (List.find?_eq_none.mp hfound entry hentry)

/-- What is found at a text stands in an entry with that text. -/
theorem mem_of_find?_eq_some {entries : Value.Entries} {slug : String} {raw : Value}
    (h : entries.find? (.str slug) = some raw) : (Scalar.str slug, raw) ∈ entries := by
  obtain ⟨⟨key, found⟩, hfound, rfl⟩ := Option.map_eq_some_iff.mp h
  have hkey := sameKey_str_iff.mp (by simpa using List.find?_some hfound)
  subst hkey
  exact List.mem_of_find?_eq_some hfound

namespace Value.Entries

/-- In a map whose keys are different, what is found at a text is what stands there. -/
theorem find?_eq_some_iff_mem {entries : Entries} (hnodup : (entries.map (·.1)).Nodup)
    {name : String} {raw : Value} :
    entries.find? (.str name) = some raw ↔ (Scalar.str name, raw) ∈ entries := by
  refine ⟨mem_of_find?_eq_some, fun hmem => ?_⟩
  obtain ⟨found, hfound⟩ := find?_eq_some_of_mem (List.mem_map.mpr ⟨_, hmem, rfl⟩)
  have hsame := List.inj_on_of_nodup_map hnodup (mem_of_find?_eq_some hfound) hmem rfl
  rw [hfound, (Prod.mk.inj hsame).2]

/-- In a map whose keys are different, the order of entries does not matter to what is found. -/
theorem get?_eq_of_perm {entries entries' : Entries} (hperm : entries.Perm entries')
    (hnodup : (entries.map (·.1)).Nodup) (name : String) :
    entries.get? name = entries'.get? name := by
  have hnodup' : (entries'.map (·.1)).Nodup := (hperm.map _).nodup_iff.mp hnodup
  ext raw
  rw [get?, get?, find?_eq_some_iff_mem hnodup, find?_eq_some_iff_mem hnodup', hperm.mem_iff]

/-- An entry under a text that is no key yet comes last. -/
theorem insert_of_not_mem {entries : Entries} {name : String}
    (h : Scalar.str name ∉ entries.map (·.1)) (value : Value) :
    entries.insert (.str name) value = entries ++ [(.str name, value)] := by
  induction entries with
  | nil => rfl
  | cons entry entries ih =>
    obtain ⟨key, old⟩ := entry
    rw [List.map_cons, List.mem_cons, not_or] at h
    have hkey : ¬key.sameKey (.str name) = true := fun hsame => h.1 (sameKey_str_iff.mp hsame).symm
    rw [insert, if_neg hkey, ih h.2, List.cons_append]

/-- Entries under texts that are all different are put into a map in their order. -/
theorem foldl_insert_of_nodup {entries before : Entries}
    (hkeys : ∀ entry ∈ entries, ∃ name, entry.1 = .str name)
    (h : ((before ++ entries).map (·.1)).Nodup) :
    entries.foldl (fun all entry => all.insert entry.1 entry.2) before = before ++ entries := by
  induction entries generalizing before with
  | nil => rw [List.foldl_nil, List.append_nil]
  | cons entry entries ih =>
    obtain ⟨key, value⟩ := entry
    obtain ⟨name, rfl⟩ := hkeys (key, value) (by simp)
    have hnew : Scalar.str name ∉ before.map (·.1) := by
      rw [List.map_append, List.map_cons, List.nodup_append] at h
      exact fun hmem => h.2.2 _ hmem _ (by simp) rfl
    have hmore : ((before ++ [(Scalar.str name, value)] ++ entries).map (·.1)).Nodup := by
      rwa [List.append_assoc, List.singleton_append]
    rw [List.foldl_cons, insert_of_not_mem hnew,
      ih (fun entry hentry => hkeys entry (List.mem_cons_of_mem _ hentry)) hmore,
      List.append_assoc, List.singleton_append]

/-- Entries under texts that are all different are a map. -/
theorem ofPairs_of_nodup {entries : Entries}
    (hkeys : ∀ entry ∈ entries, ∃ name, entry.1 = .str name)
    (h : (entries.map (·.1)).Nodup) : ofPairs entries = entries :=
  @foldl_insert_of_nodup entries [] hkeys h

end Value.Entries

end StyleTokens
