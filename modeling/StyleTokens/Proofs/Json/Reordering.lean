import Mathlib.Data.List.Perm.Basic
import Mathlib.Data.String.Basic
import StyleTokens.Proofs.Json.Canonical

/-!
# Canonical texts know no order of entries

Two documents are told apart by their canonical texts exactly if more than the order of map entries
tells them apart. One direction is that entries under different texts have only one order by their
keys; the other is that canonical texts are read back.
-/

namespace StyleTokens.Json

/-- Two values that are the same up to the order of map entries, at any depth. -/
inductive Reordered : Value → Value → Prop where
  /-- Values without parts are the same. -/
  | scalar (s : Scalar) : Reordered (.scalar s) (.scalar s)
  /-- Lists keep their order. -/
  | list {xs ys : List Value} (items : List.Forall₂ Reordered xs ys) :
      Reordered (.list xs) (.list ys)
  /-- The entries of one map are, in some order, those of the other. -/
  | map {xs ys zs : Value.Entries} (keys : xs.map (·.1) = ys.map (·.1))
      (values : List.Forall₂ Reordered (xs.map (·.2)) (ys.map (·.2))) (order : ys.Perm zs) :
      Reordered (.map xs) (.map zs)

/-- Keys that are the same and values that are related make entries that are related. -/
theorem forall₂_entries_iff {r : Value → Value → Prop} {xs ys : Value.Entries} :
    List.Forall₂ (fun x y => x.1 = y.1 ∧ r x.2 y.2) xs ys ↔
      xs.map (·.1) = ys.map (·.1) ∧ List.Forall₂ r (xs.map (·.2)) (ys.map (·.2)) := by
  induction xs generalizing ys with
  | nil => cases ys <;> simp
  | cons x xs ih =>
    cases ys with
    | nil => simp
    | cons y ys => simp [ih, and_assoc, and_left_comm]

section Sorting

variable {entries others : Value.Entries}

/-- The text that a key is. -/
private def keyName : Scalar → String
  | .str name => name
  | _ => ""

/-- Whether an entry comes before another by the texts that their keys are. -/
private def nameLe (a b : Scalar × Value) : Bool := decide (keyName a.1 ≤ keyName b.1)

private theorem pairwise_nameLe (entries : Value.Entries) :
    (entries.mergeSort nameLe).Pairwise fun a b => nameLe a b = true := by
  refine List.pairwise_mergeSort (fun a b c hab hbc => ?_) (fun a b => ?_) entries
  · simp only [nameLe, decide_eq_true_eq] at hab hbc ⊢
    exact le_trans hab hbc
  · simp only [nameLe, Bool.or_eq_true, decide_eq_true_eq]
    exact le_total _ _

/-- Entries under texts are put in the order of the texts. -/
private theorem sortEntries_of_texts (h : ∀ key ∈ entries.map (·.1), ∃ name, key = .str name) :
    sortEntries entries = .ok (entries.mergeSort nameLe) := by
  have hkeys : ∀ a ∈ entries, ∀ b ∈ entries, keyLe a.1 b.1 = nameLe (id a) (id b) := by
    intro a ha b hb
    obtain ⟨name, hname⟩ := h a.1 (List.mem_map_of_mem ha)
    obtain ⟨other, hother⟩ := h b.1 (List.mem_map_of_mem hb)
    rw [nameLe, id, id, hname, hother]
    rfl
  have hsame := List.map_mergeSort hkeys
  rw [List.map_id, List.map_id] at hsame
  unfold sortEntries
  rw [disorder?_eq_none h]
  exact congrArg Except.ok hsame

/-- The order of entries under different texts is forgotten when they are put in the order of their
keys. -/
theorem sortEntries_eq_of_perm (h : ∀ key ∈ entries.map (·.1), ∃ name, key = .str name)
    (hnodup : (entries.map (·.1)).Nodup) (hperm : entries.Perm others) :
    sortEntries entries = sortEntries others := by
  rw [sortEntries_of_texts h,
    sortEntries_of_texts fun key hkey => h key ((hperm.map (·.1)).mem_iff.mpr hkey)]
  refine congrArg Except.ok (List.Perm.eq_of_pairwise (fun a b ha hb hab hba => ?_)
    (pairwise_nameLe entries) (pairwise_nameLe others)
    ((List.mergeSort_perm _ _).trans (hperm.trans (List.mergeSort_perm _ _).symm)))
  -- Entries neither of which comes before the other have one text, and so they are the same.
  have hmemA : a ∈ entries := List.mem_mergeSort.mp ha
  have hmemB : b ∈ entries := hperm.mem_iff.mpr (List.mem_mergeSort.mp hb)
  obtain ⟨name, hname⟩ := h a.1 (List.mem_map_of_mem hmemA)
  obtain ⟨other, hother⟩ := h b.1 (List.mem_map_of_mem hmemB)
  rw [nameLe, decide_eq_true_eq, hname, hother] at hab hba
  have hsame : name = other := le_antisymm hab hba
  exact List.inj_on_of_nodup_map hnodup hmemA hmemB (by rw [hname, hother, hsame])

/-- Entries in another order are sorted one by one in that order. -/
theorem sortedEntries_perm {inner : Value.Entries} (h : sortedEntries entries = .ok inner)
    (hperm : others.Perm entries) :
    ∃ inner', sortedEntries others = .ok inner' ∧ inner'.Perm inner := by
  obtain ⟨inner', hinner', hperm'⟩ :=
    List.perm_comp_forall₂ hperm (sortedEntries_eq_ok_iff.mp h)
  exact ⟨inner', sortedEntries_eq_ok_iff.mpr hinner', hperm'⟩

end Sorting

mutual

/-- Another order of entries is forgotten when a document is sorted. -/
theorem sorted_eq_of_reordered (v : Value) {w : Value} (hv : IsDocument v) (h : Reordered v w) :
    sorted v = sorted w := by
  match v, h with
  | .scalar s, .scalar _ => rfl
  | .list items, .list hitems =>
    rw [IsDocument] at hv
    rw [sorted, sorted, sortedItems_eq_of_reordered items hv hitems]
  | .map entries, @Reordered.map _ middle _ hkeys hvalues horder =>
    rw [IsDocument] at hv
    obtain ⟨inner, hinner, hmembers⟩ := exists_sortedEntries entries hv.2
    have hmiddle : sortedEntries middle = .ok inner := by
      rw [← sortedEntries_eq_of_reordered entries hv.2
        (forall₂_entries_iff.mpr ⟨hkeys, hvalues⟩), hinner]
    obtain ⟨inner', hinner', hperm⟩ := sortedEntries_perm hmiddle horder.symm
    have hnodup : (inner.map (·.1)).Nodup := by
      rw [map_fst_of_forall₂ (sortedEntries_eq_ok_iff.mp hinner)]
      exact hv.1
    have htexts : ∀ key ∈ inner.map (·.1), ∃ name, key = .str name := by
      intro key hkey
      obtain ⟨entry, hentry, rfl⟩ := List.mem_map.mp hkey
      exact (areMembers_iff.mp hmembers entry hentry).1
    rw [sorted, sorted, hinner, hinner', ok_bind, ok_bind,
      sortEntries_eq_of_perm htexts hnodup hperm.symm]

theorem sortedItems_eq_of_reordered (items : List Value) {others : List Value}
    (hitems : AreDocuments items) (h : List.Forall₂ Reordered items others) :
    sortedItems items = sortedItems others := by
  match items, h with
  | [], .nil => rfl
  | item :: rest, .cons hitem hrest =>
    rw [AreDocuments] at hitems
    rw [sortedItems, sortedItems, sorted_eq_of_reordered item hitems.1 hitem,
      sortedItems_eq_of_reordered rest hitems.2 hrest]

theorem sortedEntries_eq_of_reordered (entries : List (Scalar × Value))
    {others : List (Scalar × Value)} (hentries : AreMembers entries)
    (h : List.Forall₂ (fun x y => x.1 = y.1 ∧ Reordered x.2 y.2) entries others) :
    sortedEntries entries = sortedEntries others := by
  match entries, h with
  | [], .nil => rfl
  | (key, value) :: rest, .cons (b := (other, value')) ⟨hkey, hvalue⟩ hrest =>
    rw [AreMembers] at hentries
    rw [sortedEntries, sortedEntries, sorted_eq_of_reordered value hentries.2.1 hvalue,
      sortedEntries_eq_of_reordered rest hentries.2.2 hrest, show key = other from hkey]

end

/-- The entries of two maps that are alike, each with the one under its key. -/
theorem Alike.entries {xs zs : Value.Entries} (h : Alike (.map xs) (.map zs)) :
    ∃ ys : Value.Entries,
      List.Forall₂ (fun x y => x.1 = y.1 ∧ Alike x.2 y.2) xs ys ∧ ys.Perm zs := by
  obtain ⟨common, hx, hz⟩ := h
  obtain ⟨innerX, sortedX, rfl, hpermX, hinnerX⟩ := exists_of_sorted_map hx
  obtain ⟨innerZ, sortedZ, heq, hpermZ, hinnerZ⟩ := exists_of_sorted_map hz
  obtain rfl := Value.map.inj heq
  obtain ⟨ys, hys, hperm⟩ := List.perm_comp_forall₂ (hpermX.symm.trans hpermZ) hinnerZ.flip
  refine ⟨ys, ?_, hperm⟩
  clear hpermX hpermZ hx hz hperm heq hinnerZ
  induction hinnerX generalizing ys with
  | nil =>
    cases hys
    exact .nil
  | cons hentry _ ih =>
    cases hys with
    | cons hother hrest =>
      exact .cons ⟨hentry.1.trans hother.1.symm, _, hentry.2, hother.2⟩ (ih _ hrest)

/-- A sorted value has the sort that it had before. -/
theorem sorted_cases {v w : Value} (h : sorted v = .ok w) :
    (∃ s, v = .scalar s ∧ w = .scalar s) ∨ (∃ xs ys, v = .list xs ∧ w = .list ys) ∨
      ∃ xs ys, v = .map xs ∧ w = .map ys := by
  cases v with
  | scalar s =>
    rw [sorted] at h
    exact .inl ⟨s, rfl, (Except.ok.inj h).symm⟩
  | list xs =>
    obtain ⟨ys, rfl, -⟩ := sorted_list_eq_ok_iff.mp h
    exact .inr (.inl ⟨xs, ys, rfl, rfl⟩)
  | map xs =>
    obtain ⟨-, ys, rfl, -, -⟩ := exists_of_sorted_map h
    exact .inr (.inr ⟨xs, ys, rfl, rfl⟩)

/-- Values that are alike are of one sort. -/
theorem Alike.cases {v w : Value} (h : Alike v w) :
    (∃ s t, v = .scalar s ∧ w = .scalar t) ∨ (∃ xs ys, v = .list xs ∧ w = .list ys) ∨
      ∃ xs ys, v = .map xs ∧ w = .map ys := by
  obtain ⟨common, hv, hw⟩ := h
  rcases sorted_cases hv with ⟨s, rfl, rfl⟩ | ⟨xs, middle, rfl, rfl⟩ | ⟨xs, middle, rfl, rfl⟩ <;>
    rcases sorted_cases hw with ⟨t, rfl, heq⟩ | ⟨ys, other, rfl, heq⟩ | ⟨ys, other, rfl, heq⟩ <;>
    cases heq
  · exact .inl ⟨s, s, rfl, rfl⟩
  · exact .inr (.inl ⟨xs, ys, rfl, rfl⟩)
  · exact .inr (.inr ⟨xs, ys, rfl, rfl⟩)

mutual

/-- Values that are the same when they are sorted are the same up to the order of entries. -/
theorem reordered_of_alike (v : Value) {w : Value} (h : Alike v w) : Reordered v w := by
  match v with
  | .scalar s =>
    obtain ⟨-, t, -, rfl⟩ | ⟨_, _, hv, -⟩ | ⟨_, _, hv, -⟩ := h.cases
    · rw [h.scalar_inj]
      exact .scalar t
    · cases hv
    · cases hv
  | .list xs =>
    obtain ⟨_, _, hv, -⟩ | ⟨-, ys, -, rfl⟩ | ⟨_, _, hv, -⟩ := h.cases
    · cases hv
    · exact .list (forall₂_reordered_of_alike xs h.items)
    · cases hv
  | .map xs =>
    obtain ⟨_, _, hv, -⟩ | ⟨_, _, hv, -⟩ | ⟨-, zs, -, rfl⟩ := h.cases
    · cases hv
    · cases hv
    · obtain ⟨ys, hentries, hperm⟩ := h.entries
      obtain ⟨hkeys, hvalues⟩ := forall₂_entries_iff.mp (entries_reordered_of_alike xs hentries)
      exact .map hkeys hvalues hperm

theorem forall₂_reordered_of_alike (items : List Value) {others : List Value}
    (h : List.Forall₂ Alike items others) : List.Forall₂ Reordered items others := by
  match items, h with
  | [], .nil => exact .nil
  | item :: rest, .cons hitem hrest =>
    exact .cons (reordered_of_alike item hitem) (forall₂_reordered_of_alike rest hrest)

theorem entries_reordered_of_alike (entries : List (Scalar × Value))
    {others : List (Scalar × Value)}
    (h : List.Forall₂ (fun x y => x.1 = y.1 ∧ Alike x.2 y.2) entries others) :
    List.Forall₂ (fun x y => x.1 = y.1 ∧ Reordered x.2 y.2) entries others := by
  match entries, h with
  | [], .nil => exact .nil
  | (key, value) :: rest, .cons hentry hrest =>
    exact .cons ⟨hentry.1, reordered_of_alike value hentry.2⟩ (entries_reordered_of_alike rest hrest)

end

end StyleTokens.Json
