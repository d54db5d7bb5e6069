import Mathlib.Data.List.Forall2
import Mathlib.Data.List.Nodup
import StyleTokens.Json.Canonical
import StyleTokens.Proofs.Json.RoundTrip

/-!
# Canonical texts tell documents apart

Sorting the entries of a document always succeeds and gives a document again. What two documents of
one canonical text have in common is stated entry by entry: they are the same up to the order of map
entries.
-/

namespace StyleTokens.Json

theorem sortedItems_eq_ok_iff {items sortedOnes : List Value} :
    sortedItems items = .ok sortedOnes ↔
      List.Forall₂ (fun item other => sorted item = .ok other) items sortedOnes := by
  induction items generalizing sortedOnes with
  | nil =>
    rw [sortedItems, List.forall₂_nil_left_iff, Except.ok.injEq]
    exact eq_comm
  | cons item rest ih =>
    rw [sortedItems, bind_eq_ok_iff, List.forall₂_cons_left_iff]
    constructor
    · rintro ⟨first, hfirst, hmore⟩
      obtain ⟨others, hothers, heq⟩ := bind_eq_ok_iff.mp hmore
      exact ⟨first, others, hfirst, ih.mp hothers, (Except.ok.inj heq).symm⟩
    · rintro ⟨first, others, hfirst, hothers, rfl⟩
      exact ⟨first, hfirst, bind_eq_ok_iff.mpr ⟨others, ih.mpr hothers, rfl⟩⟩

theorem sortedEntries_eq_ok_iff {entries sortedOnes : List (Scalar × Value)} :
    sortedEntries entries = .ok sortedOnes ↔
      List.Forall₂ (fun entry other => entry.1 = other.1 ∧ sorted entry.2 = .ok other.2)
        entries sortedOnes := by
  induction entries generalizing sortedOnes with
  | nil =>
    rw [sortedEntries, List.forall₂_nil_left_iff, Except.ok.injEq]
    exact eq_comm
  | cons entry rest ih =>
    obtain ⟨key, value⟩ := entry
    rw [sortedEntries, bind_eq_ok_iff, List.forall₂_cons_left_iff]
    constructor
    · rintro ⟨first, hfirst, hmore⟩
      obtain ⟨others, hothers, heq⟩ := bind_eq_ok_iff.mp hmore
      exact ⟨(key, first), others, ⟨rfl, hfirst⟩, ih.mp hothers, (Except.ok.inj heq).symm⟩
    · rintro ⟨⟨_, first⟩, others, ⟨rfl, hfirst⟩, hothers, rfl⟩
      exact ⟨first, hfirst, bind_eq_ok_iff.mpr ⟨others, ih.mpr hothers, rfl⟩⟩

/-- Entries put in the order of their keys are the same entries. -/
theorem perm_of_sortEntries {entries sortedOnes : Value.Entries}
    (h : sortEntries entries = .ok sortedOnes) : sortedOnes.Perm entries := by
  unfold sortEntries at h
  split at h
  · cases h
  · rw [← Except.ok.inj h]
    exact List.mergeSort_perm _ _

theorem sorted_list_eq_ok_iff {items : List Value} {v : Value} :
    sorted (.list items) = .ok v ↔ ∃ sortedOnes, v = .list sortedOnes ∧
      List.Forall₂ (fun item other => sorted item = .ok other) items sortedOnes := by
  rw [sorted, map_eq_ok_iff]
  constructor
  · rintro ⟨sortedOnes, hsorted, rfl⟩
    exact ⟨sortedOnes, rfl, sortedItems_eq_ok_iff.mp hsorted⟩
  · rintro ⟨sortedOnes, rfl, hsorted⟩
    exact ⟨sortedOnes, sortedItems_eq_ok_iff.mpr hsorted, rfl⟩

/-- A sorted map has the same entries as before, each of them sorted, in another order. -/
theorem exists_of_sorted_map {entries : Value.Entries} {v : Value}
    (h : sorted (.map entries) = .ok v) :
    ∃ inner sortedOnes, v = .map sortedOnes ∧ sortedOnes.Perm inner ∧
      List.Forall₂ (fun entry other => entry.1 = other.1 ∧ sorted entry.2 = .ok other.2)
        entries inner := by
  rw [sorted, bind_eq_ok_iff] at h
  obtain ⟨inner, hinner, hmore⟩ := h
  obtain ⟨sortedOnes, hsorted, heq⟩ := bind_eq_ok_iff.mp hmore
  exact ⟨inner, sortedOnes, (Except.ok.inj heq).symm, perm_of_sortEntries hsorted,
    sortedEntries_eq_ok_iff.mp hinner⟩

/-- Entries under texts can be put in order. -/
theorem disorder?_eq_none {keys : List Scalar} (h : ∀ key ∈ keys, ∃ name, key = .str name) :
    disorder? keys = none := by
  induction keys with
  | nil => rfl
  | cons key rest ih =>
    cases rest with
    | nil => rfl
    | cons next rest =>
      obtain ⟨first, rfl⟩ := h key (by simp)
      obtain ⟨second, rfl⟩ := h next (by simp)
      rw [disorder?]
      exact (if_pos rfl).trans (ih fun key hkey => h key (List.mem_cons_of_mem _ hkey))

/-- Sorted entries have the keys that they had before. -/
theorem map_fst_of_forall₂ {entries inner : Value.Entries}
    (h : List.Forall₂ (fun entry other => entry.1 = other.1 ∧ sorted entry.2 = .ok other.2)
      entries inner) : inner.map (·.1) = entries.map (·.1) := by
  induction h with
  | nil => rfl
  | cons hentry _ ih => rw [List.map_cons, List.map_cons, ih, hentry.1]

mutual

/-- A document can be sorted, and is a document afterwards. -/
theorem exists_sorted (v : Value) (h : IsDocument v) : ∃ w, sorted v = .ok w ∧ IsDocument w := by
  match v with
  | .scalar s => exact ⟨.scalar s, rfl, h⟩
  | .list items =>
    rw [IsDocument] at h
    obtain ⟨others, hothers, hdocuments⟩ := exists_sortedItems items h
    refine ⟨.list others, ?_, by rwa [IsDocument]⟩
    rw [sorted, hothers]
    rfl
  | .map entries =>
    rw [IsDocument] at h
    obtain ⟨inner, hinner, hmembers⟩ := exists_sortedEntries entries h.2
    have hkeys := map_fst_of_forall₂ (sortedEntries_eq_ok_iff.mp hinner)
    have horder : disorder? (inner.map (·.1)) = none := by
      refine disorder?_eq_none fun key hkey => ?_
      obtain ⟨entry, hentry, rfl⟩ := List.mem_map.mp hkey
      exact (areMembers_iff.mp hmembers entry hentry).1
    obtain ⟨others, hothers⟩ : ∃ others, sortEntries inner = .ok others := by
      unfold sortEntries
      rw [horder]
      exact ⟨_, rfl⟩
    have hperm := perm_of_sortEntries hothers
    refine ⟨.map others, ?_, ?_⟩
    · rw [sorted]
      exact bind_eq_ok_iff.mpr ⟨inner, hinner, bind_eq_ok_iff.mpr ⟨others, hothers, rfl⟩⟩
    · rw [IsDocument]
      constructor
      · rw [(hperm.map (·.1)).nodup_iff, hkeys]
        exact h.1
      · rw [areMembers_iff]
        exact fun entry hentry => areMembers_iff.mp hmembers entry (hperm.mem_iff.mp hentry)

/-- Documents can be sorted, and are documents afterwards. -/
theorem exists_sortedItems (items : List Value) (h : AreDocuments items) :
    ∃ others, sortedItems items = .ok others ∧ AreDocuments others := by
  match items with
  | [] => exact ⟨[], rfl, h⟩
  | item :: rest =>
    rw [AreDocuments] at h
    obtain ⟨first, hfirst, hdocument⟩ := exists_sorted item h.1
    obtain ⟨others, hothers, hdocuments⟩ := exists_sortedItems rest h.2
    refine ⟨first :: others, ?_, by rw [AreDocuments]; exact ⟨hdocument, hdocuments⟩⟩
    rw [sortedItems]
    exact bind_eq_ok_iff.mpr ⟨first, hfirst, bind_eq_ok_iff.mpr ⟨others, hothers, rfl⟩⟩

/-- The values of entries can be sorted, and are documents afterwards. -/
theorem exists_sortedEntries (entries : List (Scalar × Value)) (h : AreMembers entries) :
    ∃ others, sortedEntries entries = .ok others ∧ AreMembers others := by
  match entries with
  | [] => exact ⟨[], rfl, h⟩
  | (key, value) :: rest =>
    rw [AreMembers] at h
    obtain ⟨first, hfirst, hdocument⟩ := exists_sorted value h.2.1
    obtain ⟨others, hothers, hmembers⟩ := exists_sortedEntries rest h.2.2
    refine ⟨(key, first) :: others, ?_, by rw [AreMembers]; exact ⟨h.1, hdocument, hmembers⟩⟩
    rw [sortedEntries]
    exact bind_eq_ok_iff.mpr ⟨first, hfirst, bind_eq_ok_iff.mpr ⟨others, hothers, rfl⟩⟩

end

mutual

/-- A document can be written. -/
theorem checkValue_of_isDocument (v : Value) (h : IsDocument v) : checkValue true v = .ok () := by
  match v with
  | .scalar s => cases s <;> rfl
  | .list items =>
    rw [IsDocument] at h
    rw [checkValue]
    exact checkItems_of_areDocuments items h
  | .map entries =>
    rw [IsDocument] at h
    rw [checkValue]
    exact checkEntries_of_areMembers entries h.2

theorem checkItems_of_areDocuments (items : List Value) (h : AreDocuments items) :
    checkItems true items = .ok () := by
  match items with
  | [] => rfl
  | item :: rest =>
    rw [AreDocuments] at h
    rw [checkItems]
    exact bind_eq_ok_iff.mpr ⟨(), checkValue_of_isDocument item h.1,
      checkItems_of_areDocuments rest h.2⟩

theorem checkEntries_of_areMembers (entries : List (Scalar × Value)) (h : AreMembers entries) :
    checkEntries true entries = .ok () := by
  match entries with
  | [] => rfl
  | (key, value) :: rest =>
    rw [AreMembers] at h
    obtain ⟨⟨name, rfl⟩, hvalue, hrest⟩ := h
    rw [checkEntries]
    exact bind_eq_ok_iff.mpr ⟨(), rfl, bind_eq_ok_iff.mpr
      ⟨(), checkValue_of_isDocument value hvalue, checkEntries_of_areMembers rest hrest⟩⟩

end

/-- A document has a canonical text: the one of the document that it is when it is sorted. -/
theorem exists_canonical {v : Value} (h : IsDocument v) :
    ∃ w, sorted v = .ok w ∧ IsDocument w ∧ canonical v = .ok (render .canonical w) := by
  obtain ⟨w, hsorted, hdocument⟩ := exists_sorted v h
  refine ⟨w, hsorted, hdocument, ?_⟩
  unfold canonical
  exact bind_eq_ok_iff.mpr ⟨w, hsorted, bind_eq_ok_iff.mpr
    ⟨(), checkValue_of_isDocument w hdocument, rfl⟩⟩

/-- An entry is among the sorted ones with its value sorted. -/
theorem exists_mem_of_forall₂ {entries inner : Value.Entries}
    (h : List.Forall₂ (fun entry other => entry.1 = other.1 ∧ sorted entry.2 = .ok other.2)
      entries inner) {key : Scalar} {v : Value} (hv : (key, v) ∈ entries) :
    ∃ w, (key, w) ∈ inner ∧ sorted v = .ok w := by
  induction h with
  | nil => cases hv
  | @cons entry other rest others hentry _ ih =>
    rcases List.mem_cons.mp hv with rfl | hv
    · refine ⟨other.2, ?_, hentry.2⟩
      rw [show key = other.1 from hentry.1]
      exact List.mem_cons_self
    · obtain ⟨w, hw, hsorted⟩ := ih hv
      exact ⟨w, List.mem_cons_of_mem _ hw, hsorted⟩

/-- A sorted value counts as true exactly if the value does. -/
theorem truthy_of_sorted {v w : Value} (h : sorted v = .ok w) : v.truthy = w.truthy := by
  cases v with
  | scalar s =>
    rw [sorted] at h
    rw [Except.ok.inj h]
  | list items =>
    obtain ⟨others, rfl, hothers⟩ := sorted_list_eq_ok_iff.mp h
    cases hothers <;> rfl
  | map entries =>
    obtain ⟨inner, others, rfl, hperm, hinner⟩ := exists_of_sorted_map h
    have hlength : entries.length = others.length := hinner.length_eq.trans hperm.length_eq.symm
    cases entries <;> cases others <;> simp_all [Value.truthy]

/-- Two values that are the same when their maps are sorted. -/
def Alike (v w : Value) : Prop := ∃ common, sorted v = .ok common ∧ sorted w = .ok common

/-- Documents of one canonical text are the same up to the order of their entries. -/
theorem alike_of_canonical_eq {v w : Value} (hv : IsDocument v) (hw : IsDocument w)
    {text : String} (htextV : canonical v = .ok text) (htextW : canonical w = .ok text) :
    Alike v w := by
  obtain ⟨sortedV, hsortedV, hdocumentV, hcanonicalV⟩ := exists_canonical hv
  obtain ⟨sortedW, hsortedW, hdocumentW, hcanonicalW⟩ := exists_canonical hw
  have htext : render .canonical sortedV = render .canonical sortedW := by
    rw [← Except.ok.injEq (ε := Fault), ← hcanonicalV, ← hcanonicalW, htextV, htextW]
  have hsame := render_injective Style.isPlain_canonical hdocumentV hdocumentW htext
  exact ⟨sortedV, hsortedV, hsame ▸ hsortedW⟩

namespace Alike

theorem scalar_inj {s t : Scalar} (h : Alike (.scalar s) (.scalar t)) : s = t := by
  obtain ⟨common, hs, ht⟩ := h
  rw [sorted] at hs ht
  exact Value.scalar.inj ((Except.ok.inj hs).trans (Except.ok.inj ht).symm)

theorem items {xs ys : List Value} (h : Alike (.list xs) (.list ys)) :
    List.Forall₂ Alike xs ys := by
  obtain ⟨common, hx, hy⟩ := h
  obtain ⟨first, rfl, hfirst⟩ := sorted_list_eq_ok_iff.mp hx
  obtain ⟨second, heq, hsecond⟩ := sorted_list_eq_ok_iff.mp hy
  obtain rfl := Value.list.inj heq
  clear hx hy heq
  induction hfirst generalizing ys with
  | nil =>
    cases hsecond
    exact .nil
  | cons hitem _ ih =>
    cases hsecond with
    | cons hother hrest => exact .cons ⟨_, hitem, hother⟩ (ih hrest)

/-- What stands under one key in two maps that are the same up to the order of their entries. -/
theorem entry {xs ys : Value.Entries} (h : Alike (.map xs) (.map ys))
    (hnodup : (ys.map (·.1)).Nodup) {key : Scalar} {x y : Value} (hx : (key, x) ∈ xs)
    (hy : (key, y) ∈ ys) : Alike x y := by
  obtain ⟨common, hsortedX, hsortedY⟩ := h
  obtain ⟨innerX, sortedX, rfl, hpermX, hinnerX⟩ := exists_of_sorted_map hsortedX
  obtain ⟨innerY, sortedY, heq, hpermY, hinnerY⟩ := exists_of_sorted_map hsortedY
  obtain rfl := Value.map.inj heq
  obtain ⟨x', hx', hsortedx⟩ := exists_mem_of_forall₂ hinnerX hx
  obtain ⟨y', hy', hsortedy⟩ := exists_mem_of_forall₂ hinnerY hy
  have hnodupInner : (innerY.map (·.1)).Nodup := by rwa [map_fst_of_forall₂ hinnerY]
  have hmem : (key, x') ∈ innerY := hpermY.mem_iff.mp (hpermX.mem_iff.mpr hx')
  have hsame : (key, x') = (key, y') := List.inj_on_of_nodup_map hnodupInner hmem hy' rfl
  rw [(Prod.mk.inj hsame).2] at hsortedx
  exact ⟨y', hsortedx, hsortedy⟩

theorem truthy_eq {v w : Value} (h : Alike v w) : v.truthy = w.truthy := by
  obtain ⟨common, hv, hw⟩ := h
  rw [truthy_of_sorted hv, truthy_of_sorted hw]

end Alike

end StyleTokens.Json
