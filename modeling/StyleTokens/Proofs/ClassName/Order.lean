import Mathlib.Data.List.Nodup
import StyleTokens.ClassName.Responsive
import StyleTokens.Proofs.Value.Entries

/-!
# Breakpoints in the order asked for

In the order asked for, every breakpoint of a responsive value stands once: those that are listed
as they are listed, then the others as they stand. To take some of them away moves none of the
others.
-/

namespace StyleTokens

/-- The keys of a map that are listed, as they are listed. -/
def listedKeys (keys order : List Scalar) : List Scalar :=
  (distinctKeys order).filter fun key => keys.any (·.sameKey key)

theorem orderedKeys_eq (keys order : List Scalar) :
    orderedKeys keys order = listedKeys keys order ++
      keys.filter fun key => !(listedKeys keys order).any (·.sameKey key) := rfl

/-- Distinct keys are among the given ones. -/
theorem mem_of_mem_distinctKeys {keys : List Scalar} {key : Scalar} (h : key ∈ distinctKeys keys) :
    key ∈ keys := by
  have hfold : ∀ (rest seen : List Scalar),
      key ∈ rest.foldl (fun seen key =>
        if seen.any (·.sameKey key) then seen else seen ++ [key]) seen →
      key ∈ seen ∨ key ∈ rest := by
    intro rest
    induction rest with
    | nil => exact fun seen hmem => Or.inl hmem
    | cons next rest ih =>
      intro seen hmem
      rcases ih _ hmem with hseen | hrest
      · dsimp only at hseen
        split_ifs at hseen
        · exact Or.inl hseen
        · rcases List.mem_append.mp hseen with hold | hnew
          · exact Or.inl hold
          · exact Or.inr (by simp [List.mem_singleton.mp hnew])
      · exact Or.inr (List.mem_cons_of_mem _ hrest)
  exact (hfold keys [] h).resolve_left (by simp)

/-- Every breakpoint has its place in the order asked for, and nothing else has one, as long as a
breakpoint is the same key as one that is listed only if it is that one. -/
theorem mem_orderedKeys_of_same {keys order : List Scalar}
    (hsame : ∀ key ∈ keys, ∀ other ∈ order,
      key.sameKey other = true ∨ other.sameKey key = true → key = other)
    {key : Scalar} : key ∈ orderedKeys keys order ↔ key ∈ keys := by
  have hlisted : ∀ other ∈ listedKeys keys order, other ∈ order ∧ other ∈ keys := by
    intro other hother
    rw [listedKeys, List.mem_filter, List.any_eq_true] at hother
    obtain ⟨hdistinct, key, hkey, hkeySame⟩ := hother
    have horder := mem_of_mem_distinctKeys hdistinct
    rw [hsame key hkey other horder (.inl hkeySame)] at hkey
    exact ⟨horder, hkey⟩
  rw [orderedKeys_eq, List.mem_append, List.mem_filter]
  constructor
  · rintro (hkey | ⟨hkey, -⟩)
    · exact (hlisted key hkey).2
    · exact hkey
  · intro hkey
    by_cases hfound : (listedKeys keys order).any (·.sameKey key) = true
    · obtain ⟨other, hother, hotherSame⟩ := List.any_eq_true.mp hfound
      rw [hsame key hkey other (hlisted other hother).1 (.inr hotherSame)]
      exact Or.inl hother
    · exact Or.inr ⟨hkey, by simp [hfound]⟩

/-- An order neither adds a breakpoint nor takes one away. -/
theorem mem_orderedKeys {keys order : List Scalar} (hkeys : ∀ key ∈ keys, ∃ slug, key = .str slug)
    {key : Scalar} : key ∈ orderedKeys keys order ↔ key ∈ keys := by
  refine mem_orderedKeys_of_same fun key hkey other _ hsame => ?_
  obtain ⟨slug, rfl⟩ := hkeys key hkey
  exact (hsame.elim str_sameKey_iff.mp sameKey_str_iff.mp).symm

/-- An order of texts neither adds a breakpoint nor takes one away. -/
theorem mem_orderedKeys_of_texts {keys : List Scalar} {slugs : List String} {key : Scalar} :
    key ∈ orderedKeys keys (slugs.map .str) ↔ key ∈ keys := by
  refine mem_orderedKeys_of_same fun key _ other hother hsame => ?_
  obtain ⟨slug, -, rfl⟩ := List.mem_map.mp hother
  exact hsame.elim sameKey_str_iff.mp str_sameKey_iff.mp

/-- No key comes twice among distinct ones. -/
theorem pairwise_distinctKeys (order : List Scalar) :
    (distinctKeys order).Pairwise fun earlier later => earlier.sameKey later = false := by
  -- A key is added only if none that was seen before is the same.
  have hfold : ∀ (rest seen : List Scalar),
      seen.Pairwise (fun earlier later => earlier.sameKey later = false) →
      (rest.foldl (fun seen key => if seen.any (·.sameKey key) then seen else seen ++ [key])
        seen).Pairwise fun earlier later => earlier.sameKey later = false := by
    intro rest
    induction rest with
    | nil => exact fun seen hseen => hseen
    | cons key rest ih =>
      intro seen hseen
      refine ih _ ?_
      dsimp only
      split_ifs with hknown
      · exact hseen
      · rw [List.pairwise_append]
        refine ⟨hseen, List.pairwise_singleton _ _, fun earlier hearlier later hlater => ?_⟩
        rw [List.mem_singleton.mp hlater]
        simpa using fun hsame => hknown (List.any_eq_true.mpr ⟨earlier, hearlier, hsame⟩)
  exact hfold order [] List.Pairwise.nil

/-- Only a text is the same key as a text. -/
theorem any_sameKey_str_iff {keys : List Scalar} {slug : String} :
    keys.any (·.sameKey (.str slug)) = true ↔ Scalar.str slug ∈ keys := by
  simp [List.any_eq_true, sameKey_str_iff]

section Texts

variable {keys order : List Scalar} (htexts : ∀ key ∈ keys, ∃ slug, key = .str slug)

include htexts

/-- A key is the same as one of some texts exactly if it is one of them. -/
theorem any_sameKey_iff_mem {key : Scalar} : keys.any (·.sameKey key) = true ↔ key ∈ keys := by
  rw [List.any_eq_true]
  constructor
  · rintro ⟨other, hother, hsame⟩
    obtain ⟨slug, rfl⟩ := htexts other hother
    rwa [str_sameKey_iff.mp hsame]
  · intro hkey
    obtain ⟨slug, rfl⟩ := htexts key hkey
    exact ⟨_, hkey, sameKey_str_iff.mpr rfl⟩

theorem mem_listedKeys {key : Scalar} :
    key ∈ listedKeys keys order ↔ key ∈ distinctKeys order ∧ key ∈ keys := by
  rw [listedKeys, List.mem_filter, any_sameKey_iff_mem htexts]

theorem nodup_listedKeys : (listedKeys keys order).Nodup := by
  refine ((pairwise_distinctKeys order).filter _).imp_of_mem fun {earlier later} hearlier _ hne => ?_
  rintro rfl
  obtain ⟨slug, rfl⟩ := htexts _ ((mem_listedKeys htexts).mp hearlier).2
  rw [sameKey_str_iff.mpr rfl] at hne
  cases hne

/-- No breakpoint comes twice in the order asked for. -/
theorem nodup_orderedKeys (hnodup : keys.Nodup) : (orderedKeys keys order).Nodup := by
  rw [orderedKeys_eq, List.nodup_append]
  refine ⟨nodup_listedKeys htexts, hnodup.filter _, ?_⟩
  rintro key hlisted _ hother rfl
  obtain ⟨hmem, hunlisted⟩ := List.mem_filter.mp hother
  obtain ⟨slug, rfl⟩ := htexts key hmem
  rw [any_sameKey_str_iff.mpr hlisted] at hunlisted
  cases hunlisted

/-- The order asked for is an order of all breakpoints. -/
theorem orderedKeys_perm (hnodup : keys.Nodup) : (orderedKeys keys order).Perm keys :=
  (List.perm_ext_iff_of_nodup (nodup_orderedKeys htexts hnodup) hnodup).mpr fun _ =>
    mem_orderedKeys htexts

theorem listedKeys_filter (keep : Scalar → Bool) :
    listedKeys (keys.filter keep) order = (listedKeys keys order).filter keep := by
  have hkept : ∀ key ∈ keys.filter keep, ∃ slug, key = .str slug := fun key hkey =>
    htexts key (List.mem_of_mem_filter hkey)
  rw [listedKeys, listedKeys, List.filter_filter]
  refine List.filter_congr fun key _ => Bool.eq_iff_iff.mpr ?_
  rw [any_sameKey_iff_mem hkept, List.mem_filter, Bool.and_eq_true, any_sameKey_iff_mem htexts,
    and_comm]

/-- Breakpoints that are taken away leave the others in their order. -/
theorem orderedKeys_filter (keep : Scalar → Bool) :
    orderedKeys (keys.filter keep) order = (orderedKeys keys order).filter keep := by
  rw [orderedKeys_eq, orderedKeys_eq, List.filter_append, listedKeys_filter htexts,
    List.filter_filter, List.filter_filter]
  congr 1
  refine List.filter_congr fun key hkey => ?_
  obtain ⟨slug, rfl⟩ := htexts key hkey
  rw [Bool.and_comm, Bool.eq_iff_iff, Bool.and_eq_true, Bool.and_eq_true]
  refine and_congr_right fun hkeep => ?_
  rw [Bool.not_eq_true', Bool.not_eq_true', ← Bool.not_eq_true, ← Bool.not_eq_true,
    any_sameKey_str_iff, any_sameKey_str_iff, List.mem_filter]
  simp [hkeep]

end Texts

end StyleTokens
