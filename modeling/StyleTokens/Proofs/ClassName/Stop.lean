import Mathlib.Data.List.Perm.Subperm
import StyleTokens.Proofs.ClassName.Order
import StyleTokens.Proofs.Endless
import StyleTokens.Proofs.Token.Meaning

/-!
# Stops of a responsive value

A responsive value is gone through breakpoint by breakpoint in the order asked for. Each stop adds
the classes of its sides, or is noted because it is malformed. A stop without sides adds nothing,
and to take it away does not disturb the others.
-/

namespace StyleTokens

/-- A breakpoint of a responsive value, with its data and what the data denotes. -/
structure Stop where
  /-- The breakpoint. -/
  slug : String
  /-- The data at the breakpoint. -/
  raw : Value
  /-- The values of sides, or nothing if the data is malformed. -/
  denoted : Option Sides
  /-- This is what the data denotes. -/
  denotes : Denotes raw denoted

namespace Stop

/-- The breakpoint as a key. -/
def key (stop : Stop) : Scalar := .str stop.slug

/-- The entry of a responsive value that a stop is. -/
def entry (stop : Stop) : Scalar × Value := (stop.key, stop.raw)

/-- The values of sides that are present; malformed data has none. -/
def sides (stop : Stop) : Sides := stop.denoted.getD []

theorem map_fst_entry (stops : List Stop) : (stops.map entry).map (·.1) = stops.map key := by
  rw [List.map_map]
  rfl

/-- The classes of a responsive value in a category, stop by stop and side by side. -/
def classes (category : StyleCategory) (stops : List Stop) : List String :=
  stops.flatMap fun stop => entryClasses category stop.slug stop.sides

/-- The malformed data of a responsive value, stop by stop. -/
def malformed (stops : List Stop) : List Value :=
  (stops.filter (·.denoted.isNone)).map (·.raw)

theorem malformed_cons (stop : Stop) (stops : List Stop) :
    malformed (stop :: stops) = malformed [stop] ++ malformed stops := by
  rw [malformed, malformed, malformed, ← List.map_append, ← List.filter_append]
  rfl

/-- There are no classes exactly if no side has a value. -/
theorem classes_eq_nil_iff {category : StyleCategory} {stops : List Stop} :
    classes category stops = [] ↔ ∀ stop ∈ stops, stop.sides = [] := by
  simp [classes, entryClasses, List.flatMap_eq_nil_iff]

end Stop

/-- The breakpoint order that is asked for, as data: null, or the list of the slugs. -/
def orderData : Option (List String) → Value
  | none => .null
  | some slugs => .list (slugs.map .str)

/-- The stops of a responsive value are all its entries, in the order asked for; data that is no
map has none. -/
inductive Arranged (order : Value) : Value → List Stop → Prop where
  /-- Each entry is a stop, at its place in the order. -/
  | map {entries : Value.Entries} {stops : List Stop}
    (hentries : (stops.map Stop.entry).Perm entries)
    (horder : orderedBreakpoints (.map entries) order = .ok (stops.map Stop.key)) :
    Arranged order (.map entries) stops
  /-- Data of another sort has no stops. -/
  | other {value : Value} (hmap : ∀ entries, value ≠ .map entries) : Arranged order value []

/-- A responsive value as a document holds it: each breakpoint is a text and has one entry. No
number that is read is endless. -/
structure Value.IsResponsive (value : Value) : Prop where
  /-- Breakpoints are texts. -/
  slugs : ∀ entries, value = .map entries → ∀ key ∈ entries.map (·.1), ∃ slug, key = .str slug
  /-- No breakpoint has two entries. -/
  nodup : ∀ entries, value = .map entries → (entries.map (·.1)).Nodup
  /-- Each number that is read has a text. -/
  inRange : ¬value.SetsEndless

/-! ### What is found on the way -/

/-- A computation has a result and notes some malformed data, in that order. -/
structure Noted.Finds {α : Type} (computation : Noted Malformed α) (a : α) (raws : List Value) :
    Prop where
  /-- The result. -/
  outcome : computation.outcome = .ok a
  /-- The data that is noted. -/
  notes : computation.notes.map (·.raw) = raws

namespace Noted.Finds

variable {α β : Type} {a : α} {b : β} {raws others : List Value}

theorem pure (a : α) : (Pure.pure a : Noted Malformed α).Finds a [] := ⟨rfl, rfl⟩

theorem quiet {outcome : Except Fault α} (h : outcome = .ok a) :
    (Noted.quiet outcome : Noted Malformed α).Finds a [] := ⟨h, rfl⟩

/-- What a computation in two steps finds is what its steps find. -/
theorem bind {first : Noted Malformed α} {rest : α → Noted Malformed β}
    (hfirst : first.Finds a raws) (hrest : (rest a).Finds b others) :
    (first >>= rest).Finds b (raws ++ others) := by
  have hnext : first >>= rest = ⟨first.notes ++ (rest a).notes, (rest a).outcome⟩ := by
    change first.next rest = _
    rw [Noted.next, hfirst.outcome]
  rw [hnext]
  exact ⟨hrest.outcome, by rw [List.map_append, hfirst.notes, hrest.notes]⟩

/-- A result that is changed is found with the same data. -/
theorem map_result {first : Noted Malformed α} (hfirst : first.Finds a raws) (f : α → β) :
    (first >>= fun a => Pure.pure (f a)).Finds (f a) raws := by
  have hlast : (Pure.pure (f a) : Noted Malformed β).Finds (f a) [] := pure (f a)
  have hboth : (first >>= fun a => Pure.pure (f a)).Finds (f a) (raws ++ []) := hfirst.bind hlast
  rwa [List.append_nil] at hboth

/-- A computation for each input finds what all of them find. -/
theorem mapM {f : α → Noted Malformed β} {result : α → β} {found : α → List Value}
    {inputs : List α} (h : ∀ input ∈ inputs, (f input).Finds (result input) (found input)) :
    (inputs.mapM f).Finds (inputs.map result) (inputs.flatMap found) := by
  have hloop : ∀ done : List β, (List.mapM.loop f inputs done).Finds
      (done.reverse ++ inputs.map result) (inputs.flatMap found) := by
    induction inputs with
    | nil =>
      intro done
      rw [List.map_nil, List.append_nil]
      exact pure _
    | cons input inputs ih =>
      intro done
      obtain ⟨hinput, hinputs⟩ := List.forall_mem_cons.mp h
      have hrest := ih hinputs (result input :: done)
      rw [List.reverse_cons, List.append_assoc, List.singleton_append] at hrest
      exact bind hinput hrest
  exact hloop []

end Noted.Finds

/-! ### Responsive values -/

theorem breakpointOrder_orderData (order : Option (List String)) :
    breakpointOrder (orderData order) = .ok ((order.getD []).map .str) := by
  cases order with
  | none => rfl
  | some slugs => exact breakpointOrder_texts slugs

/-- The breakpoints of a map in the order asked for. -/
theorem orderedBreakpoints_orderData (entries : Value.Entries) (order : Option (List String)) :
    orderedBreakpoints (.map entries) (orderData order) =
      .ok (orderedKeys (entries.map (·.1)) ((order.getD []).map .str)) := by
  rw [orderedBreakpoints, breakpointOrder_orderData]
  rfl

/-- The side values of data are those that it denotes. -/
theorem normalize_of_denotes {raw : Value} {denoted : Option Sides} (hrange : ¬raw.HoldsEndless)
    (h : Denotes raw denoted) : normalize raw = .ok (denoted.getD []) := by
  have hreads := readsAs_of_denotes hrange h
  rw [← outcome_notedSides]
  cases denoted with
  | some sides => exact congrArg Noted.outcome hreads
  | none =>
    obtain ⟨reason, hnoted⟩ := hreads
    exact congrArg Noted.outcome hnoted

/-- Reading the data of a stop finds its sides, or notes it. -/
theorem Stop.finds_notedSides (stop : Stop) (hrange : ¬stop.raw.HoldsEndless) :
    (notedSides stop.raw).Finds stop.sides (malformed [stop]) := by
  obtain ⟨slug, raw, denoted, hdenotes⟩ := stop
  have hreads := readsAs_of_denotes hrange hdenotes
  cases denoted with
  | some sides =>
    rw [show notedSides raw = .result sides from hreads]
    exact ⟨rfl, rfl⟩
  | none =>
    obtain ⟨reason, hnoted⟩ := hreads
    rw [show notedSides raw = _ from hnoted]
    exact ⟨rfl, rfl⟩

/-- Going through the stops of a map finds their classes and their malformed data. -/
theorem finds_classesAt (category : StyleCategory) {entries : Value.Entries} {stops : List Stop}
    (hfound : ∀ stop ∈ stops, entries.find? stop.key = some stop.raw)
    (hrange : ∀ stop ∈ stops, ¬stop.raw.HoldsEndless) :
    (classesAt category entries (stops.map Stop.key)).Finds (Stop.classes category stops)
      (Stop.malformed stops) := by
  induction stops with
  | nil => exact .pure _
  | cons stop stops ih =>
    obtain ⟨hstop, hstops⟩ := List.forall_mem_cons.mp hfound
    obtain ⟨hfirst, hothers⟩ := List.forall_mem_cons.mp hrange
    have hrest := ih hstops hothers
    rw [List.map_cons, classesAt, hstop, Stop.malformed_cons]
    exact (stop.finds_notedSides hfirst).bind (hrest.map_result _)

/-- An entry of a responsive value is found at its breakpoint. -/
theorem Value.IsResponsive.find?_eq {entries : Value.Entries} (h : (Value.map entries).IsResponsive)
    {stop : Stop} (hstop : stop.entry ∈ entries) : entries.find? stop.key = some stop.raw :=
  (Value.Entries.find?_eq_some_iff_mem (h.nodup _ rfl)).mpr hstop

/-- The data of an entry holds no endless number. -/
theorem Value.IsResponsive.not_holdsEndless {entries : Value.Entries}
    (h : (Value.map entries).IsResponsive) {entry : Scalar × Value} (hentry : entry ∈ entries) :
    ¬entry.2.HoldsEndless := by
  obtain ⟨key, raw⟩ := entry
  have hkey := List.mem_map_of_mem (f := (·.1)) hentry
  obtain ⟨slug, rfl⟩ := h.slugs _ rfl _ hkey
  have hfound := (Value.Entries.find?_eq_some_iff_mem (h.nodup _ rfl)).mpr hentry
  exact fun hendless => h.inRange ⟨entries, rfl, _, hkey, raw, hfound, hendless⟩

/-- The stops of a map are entries of it. -/
theorem Arranged.entry_mem {order : Value} {entries : Value.Entries} {stops : List Stop}
    (h : Arranged order (.map entries) stops) {stop : Stop} (hstop : stop ∈ stops) :
    stop.entry ∈ entries := by
  cases h with
  | other hmap => cases hstop
  | map hentries horder => exact hentries.mem_iff.mp (List.mem_map_of_mem hstop)

/-- The data of a stop holds no endless number. -/
theorem Arranged.not_holdsEndless {order value : Value} {stops : List Stop}
    (h : Arranged order value stops) (hvalue : value.IsResponsive) {stop : Stop}
    (hstop : stop ∈ stops) : ¬stop.raw.HoldsEndless := by
  cases value with
  | map entries => exact hvalue.not_holdsEndless (h.entry_mem hstop)
  | _ =>
    cases h
    cases hstop

/-- A category's marker stands in front of its classes, if there are any. -/
theorem withMarker_eq (category : StyleCategory) (classes : List String) :
    withMarker category classes =
      (if classes = [] then [] else category.marker?.toList) ++ classes := by
  cases classes <;> cases category <;> rfl

theorem withMarker_nil (category : StyleCategory) : withMarker category [] = [] := by
  simp [withMarker_eq]

/-- A responsive value has the classes of its stops, behind its marker. -/
theorem Arranged.finds {order : Option (List String)} {value : Value} {stops : List Stop}
    (harranged : Arranged (orderData order) value stops) (hvalue : value.IsResponsive)
    (category : StyleCategory) :
    (responsiveClassesOfValue category value (orderData order)).Finds
      (withMarker category (Stop.classes category stops)) (Stop.malformed stops) := by
  have hrange : ∀ stop ∈ stops, ¬stop.raw.HoldsEndless := fun _ hstop =>
    harranged.not_holdsEndless hvalue hstop
  cases harranged with
  | other hmap =>
    have hnone : responsiveClassesOfValue category value (orderData order) = .result [] := by
      cases value with
      | map entries => exact absurd rfl (hmap entries)
      | _ => rfl
    rw [hnone, Stop.classes, List.flatMap_nil, withMarker_nil]
    exact .pure _
  | @map entries _ hentries horder =>
    cases entries with
    | nil =>
      rw [List.perm_nil, List.map_eq_nil_iff] at hentries
      rw [hentries, Stop.classes, List.flatMap_nil, withMarker_nil]
      exact .pure _
    | cons entry entries =>
      have hstops : ∀ stop ∈ stops, stop.entry ∈ entry :: entries := fun stop hstop =>
        hentries.mem_iff.mp (List.mem_map_of_mem hstop)
      have hclasses := finds_classesAt category
        (fun stop hstop => hvalue.find?_eq (hstops stop hstop)) hrange
      rw [orderedBreakpoints_orderData, Except.ok.injEq] at horder
      rw [← horder] at hclasses
      exact (Noted.Finds.quiet (breakpointOrder_orderData order)).bind
        (hclasses.map_result (withMarker category))

/-- A responsive value of a known category has the classes of its stops, behind its marker. -/
theorem Arranged.finds_compileResponsive {order : Option (List String)} {value : Value}
    {stops : List Stop} (harranged : Arranged (orderData order) value stops)
    (hvalue : value.IsResponsive) (category : StyleCategory) :
    (compileResponsive (.str category.name) value (orderData order)).Finds
      (withMarker category (Stop.classes category stops)) (Stop.malformed stops) :=
  compileResponsive_name category value (orderData order) ▸ harranged.finds hvalue category

/-- A map is a responsive value if its keys are different texts and its entries can be read. -/
theorem Value.isResponsive_map {entries : Value.Entries} {slugs : List String}
    (hslugs : entries.map (·.1) = slugs.map .str) (hnodup : slugs.Nodup)
    (hread : ∃ readings, entries.mapM (fun entry => normalize entry.2) = .ok readings) :
    (Value.map entries).IsResponsive := by
  constructor
  · rintro _ ⟨⟩ key hkey
    rw [hslugs] at hkey
    obtain ⟨slug, -, rfl⟩ := List.mem_map.mp hkey
    exact ⟨slug, rfl⟩
  · rintro _ ⟨⟩
    rw [hslugs]
    exact hnodup.map fun _ _ hsame => Scalar.str.inj hsame
  · rintro ⟨_, ⟨⟩, key, hkey, raw, hfound, hendless⟩
    rw [hslugs] at hkey
    obtain ⟨slug, -, rfl⟩ := List.mem_map.mp hkey
    rw [exists_ok_iff, mapM_fault_iff] at hread
    exact hread ⟨_, mem_of_find?_eq_some hfound, normalize_fault_iff.mpr hendless⟩

/-- Breakpoints of a responsive value are those of stops. -/
theorem Value.IsResponsive.exists_stops {entries : Value.Entries}
    (h : (Value.map entries).IsResponsive) {keys : List Scalar}
    (hkeys : ∀ key ∈ keys, key ∈ entries.map (·.1)) :
    ∃ stops : List Stop, stops.map Stop.key = keys ∧ ∀ stop ∈ stops, stop.entry ∈ entries := by
  induction keys with
  | nil => exact ⟨[], rfl, by simp⟩
  | cons key keys ih =>
    obtain ⟨hkey, hmore⟩ := List.forall_mem_cons.mp hkeys
    obtain ⟨stops, rfl, hstops⟩ := ih hmore
    obtain ⟨⟨_, raw⟩, hentry, rfl⟩ := List.mem_map.mp hkey
    obtain ⟨slug, rfl⟩ := h.slugs _ rfl _ hkey
    obtain ⟨denoted, hdenotes⟩ := exists_denotes (h.not_holdsEndless hentry)
    exact ⟨⟨slug, raw, denoted, hdenotes⟩ :: stops, rfl, List.forall_mem_cons.mpr ⟨hentry, hstops⟩⟩

/-- A responsive value has stops. -/
theorem Value.IsResponsive.exists_arranged {value : Value} (h : value.IsResponsive)
    (order : Option (List String)) : ∃ stops, Arranged (orderData order) value stops := by
  cases value with
  | scalar s => exact ⟨[], .other (by simp)⟩
  | list items => exact ⟨[], .other (by simp)⟩
  | map entries =>
    have hperm := @orderedKeys_perm _ ((order.getD []).map .str) (h.slugs _ rfl) (h.nodup _ rfl)
    obtain ⟨stops, hkeys, hstops⟩ := h.exists_stops fun key hkey => hperm.mem_iff.mp hkey
    rw [← hkeys, ← Stop.map_fst_entry] at hperm
    -- As many different entries as there are in the map are all of them.
    have hnodup := (hperm.nodup_iff.mpr (h.nodup _ rfl)).of_map
    have hsubset : ∀ entry ∈ stops.map Stop.entry, entry ∈ entries :=
      List.forall_mem_map.mpr hstops
    have hlength : entries.length ≤ (stops.map Stop.entry).length := by
      simpa using hperm.length_eq.ge
    refine ⟨stops, .map ((hnodup.subperm hsubset).perm_of_length_le hlength) ?_⟩
    rw [orderedBreakpoints_orderData, hkeys]

/-! ### Entries that are taken away -/

/-- Malformed and empty entries taken from a responsive value. -/
inductive Thinned : Value → Value → Prop where
  /-- Nothing is taken away. -/
  | same (value : Value) : Thinned value value
  /-- What is not kept of a map is malformed or empty. -/
  | entries {entries : Value.Entries} (keep : Scalar × Value → Bool)
    (hdropped : ∀ entry ∈ entries, keep entry = false →
      Denotes entry.2 none ∨ Denotes entry.2 (some [])) :
    Thinned (.map entries) (.map (entries.filter keep))

theorem Value.IsResponsive.filter {entries : Value.Entries} (h : (Value.map entries).IsResponsive)
    (keep : Scalar × Value → Bool) : (Value.map (entries.filter keep)).IsResponsive := by
  have hkept : (entries.filter keep).map (·.1) ⊆ entries.map (·.1) :=
    List.map_subset _ (List.filter_subset_self _)
  constructor
  · rintro _ ⟨⟩ key hkey
    exact h.slugs _ rfl _ (hkept hkey)
  · rintro _ ⟨⟩
    exact (h.nodup _ rfl).sublist (List.filter_sublist.map _)
  · rintro ⟨_, ⟨⟩, key, hkey, raw, hfound, hendless⟩
    obtain ⟨slug, rfl⟩ := h.slugs _ rfl _ (hkept hkey)
    have hentry := List.mem_of_mem_filter (mem_of_find?_eq_some hfound)
    exact h.not_holdsEndless hentry hendless

/-- In a map whose keys are different, the key of an entry is kept exactly if the entry is. -/
theorem mem_map_fst_filter_iff {entries : Value.Entries} (hnodup : (entries.map (·.1)).Nodup)
    {keep : Scalar × Value → Bool} {entry : Scalar × Value} (hentry : entry ∈ entries) :
    entry.1 ∈ (entries.filter keep).map (·.1) ↔ keep entry = true := by
  constructor
  · intro hkey
    obtain ⟨other, hother, hsame⟩ := List.mem_map.mp hkey
    obtain ⟨hmem, hkeep⟩ := List.mem_filter.mp hother
    rwa [← List.inj_on_of_nodup_map hnodup hmem hentry hsame]
  · exact fun hkeep => List.mem_map_of_mem (List.mem_filter.mpr ⟨hentry, hkeep⟩)

/-- Without some of its entries, a responsive value has the other stops as they were. -/
theorem Arranged.filter {order : Option (List String)} {entries : Value.Entries} {stops : List Stop}
    (h : Arranged (orderData order) (.map entries) stops)
    (hvalue : (Value.map entries).IsResponsive) (keep : Scalar × Value → Bool) :
    Arranged (orderData order) (.map (entries.filter keep))
      (stops.filter fun stop => keep stop.entry) := by
  cases h with
  | other hmap => exact absurd rfl (hmap entries)
  | map hentries horder =>
    have hkept := @mem_map_fst_filter_iff entries (hvalue.nodup _ rfl) keep
    -- Which keys are kept can be told from the keys alone, since they are different.
    have hkeys : (entries.filter keep).map (·.1) =
        (entries.map (·.1)).filter (· ∈ (entries.filter keep).map (·.1)) := by
      rw [List.filter_map]
      congr 1
      refine List.filter_congr fun entry hentry => ?_
      rw [Bool.eq_iff_iff, ← hkept hentry]
      exact decide_eq_true_iff.symm
    have hstops : (stops.filter fun stop => keep stop.entry).map Stop.key =
        (stops.map Stop.key).filter (· ∈ (entries.filter keep).map (·.1)) := by
      rw [List.filter_map]
      congr 1
      refine List.filter_congr fun stop hstop => ?_
      rw [Bool.eq_iff_iff, ← hkept (hentries.mem_iff.mp (List.mem_map_of_mem hstop))]
      exact decide_eq_true_iff.symm
    refine .map ?_ ?_
    · have hfiltered := hentries.filter keep
      rwa [List.filter_map] at hfiltered
    · rw [orderedBreakpoints_orderData, Except.ok.injEq] at horder ⊢
      rw [hkeys, orderedKeys_filter (hvalue.slugs _ rfl), horder, hstops]

/-- To leave out inputs that give nothing makes no difference. -/
theorem flatMap_filter_of_nil {α β : Type} {f : α → List β} {keep : α → Bool} {inputs : List α}
    (h : ∀ input ∈ inputs, keep input = false → f input = []) :
    (inputs.filter keep).flatMap f = inputs.flatMap f := by
  induction inputs with
  | nil => rfl
  | cons input inputs ih =>
    obtain ⟨hinput, hinputs⟩ := List.forall_mem_cons.mp h
    cases hkeep : keep input with
    | true => rw [List.filter_cons_of_pos hkeep, List.flatMap_cons, List.flatMap_cons, ih hinputs]
    | false =>
      rw [List.filter_cons_of_neg (by simp [hkeep]), List.flatMap_cons, hinput hkeep,
        List.nil_append, ih hinputs]

/-- Without malformed and empty entries, a responsive value has the same classes. -/
theorem Thinned.exists_arranged {order : Option (List String)} {value value' : Value}
    {stops : List Stop} (h : Thinned value value')
    (harranged : Arranged (orderData order) value stops) (hvalue : value.IsResponsive) :
    value'.IsResponsive ∧ ∃ stops', Arranged (orderData order) value' stops' ∧
      ∀ category, Stop.classes category stops' = Stop.classes category stops := by
  cases h with
  | same => exact ⟨hvalue, stops, harranged, fun _ => rfl⟩
  | @entries entries keep hdropped =>
    refine ⟨hvalue.filter keep, _, harranged.filter hvalue keep, fun category => ?_⟩
    refine flatMap_filter_of_nil fun stop hstop hkeep => ?_
    have hentry := harranged.entry_mem hstop
    have hrange := harranged.not_holdsEndless hvalue hstop
    have hread := normalize_of_denotes hrange stop.denotes
    have hsides : stop.sides = [] := by
      rcases hdropped _ hentry hkeep with hmalformed | hempty
      · exact Except.ok.inj (hread.symm.trans (normalize_of_denotes hrange hmalformed))
      · exact Except.ok.inj (hread.symm.trans (normalize_of_denotes hrange hempty))
    rw [hsides]
    rfl

end StyleTokens
