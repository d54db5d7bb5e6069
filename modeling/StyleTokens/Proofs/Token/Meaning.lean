import StyleTokens.Proofs.ClassName.Responsive
import StyleTokens.Proofs.Token.Edge
import StyleTokens.Proofs.Token.Reading

/-!
# What token data denotes

Data denotes values of sides, or it is malformed. Nothing denotes no value, a text or a number is
the value of all sides, and a map denotes the values that are present at the sides it speaks of, if
all of them may stand there. Reading data finds what it denotes, and notes it exactly if it is
malformed.
-/

namespace StyleTokens

/-- The values that are present among those of some sides. -/
def presentSides (parts : List (Side × Value)) : Sides :=
  parts.filterMap fun part => part.2.sideText?.map fun text => (part.1, text)

/-- What data denotes: the values of sides, or nothing because it is malformed. -/
inductive Denotes : Value → Option Sides → Prop where
  /-- Null denotes no value. -/
  | null : Denotes .null (some [])
  /-- False denotes no value. -/
  | false : Denotes (.bool false) (some [])
  /-- The empty text denotes no value. -/
  | noText : Denotes (.str "") (some [])
  /-- The empty map denotes no value. -/
  | noEntries : Denotes (.map []) (some [])
  /-- A text is the value of all sides. -/
  | text {s : String} (hs : s ≠ "") : Denotes (.str s) (some [(.all, s)])
  /-- A number is the value of all sides. -/
  | number {n : Number} {text : List Char} (htext : n.styleText = .ok text) :
    Denotes (.num n) (some [(.all, String.ofList text)])
  /-- True is malformed. -/
  | true : Denotes (.bool true) none
  /-- A time is malformed. -/
  | calendar (time : CalendarTime) : Denotes (.scalar (.calendar time)) none
  /-- A list is malformed. -/
  | list (items : List Value) : Denotes (.list items) none
  /-- A map of a known type with values that may stand at its sides denotes those that are
  present. -/
  | entry {entries : Value.Entries} {parts : List (Side × Value)}
    (hspeaks : SpeaksOf entries parts) (hfits : ∀ part ∈ parts, part.2.FitsSide) :
    Denotes (.map entries) (some (presentSides parts))
  /-- Every other map is malformed. -/
  | noEntry {entries : Value.Entries} (hne : entries ≠ [])
    (h : ¬∃ parts, SpeaksOf entries parts ∧ ∀ part ∈ parts, part.2.FitsSide) :
    Denotes (.map entries) none

/-- Reading data finds what it denotes without a note, or notes the data once. -/
def ReadsAs (raw : Value) : Option Sides → Prop
  | some sides => notedSides raw = .result sides
  | none => ∃ reason, notedSides raw = ⟨[⟨raw, reason⟩], .ok []⟩

/-- Data that is read denotes something. -/
theorem exists_denotes {raw : Value} (hrange : ¬raw.HoldsEndless) :
    ∃ denoted, Denotes raw denoted := by
  cases raw with
  | list items => exact ⟨_, .list items⟩
  | map entries =>
    by_cases hentry : ∃ parts, SpeaksOf entries parts ∧ ∀ part ∈ parts, part.2.FitsSide
    · obtain ⟨parts, hspeaks, hfits⟩ := hentry
      exact ⟨_, .entry hspeaks hfits⟩
    · by_cases hne : entries = []
      · subst hne
        exact ⟨_, .noEntries⟩
      · exact ⟨_, .noEntry hne hentry⟩
  | scalar s =>
    cases s with
    | null => exact ⟨_, .null⟩
    | bool b =>
      cases b with
      | false => exact ⟨_, .false⟩
      | true => exact ⟨_, .true⟩
    | num n =>
      have hshown : ¬n.IsEndless := fun h => hrange ⟨n, rfl, h⟩
      rw [← Number.styleText_fault_iff, ← exists_ok_iff] at hshown
      obtain ⟨text, htext⟩ := hshown
      exact ⟨_, .number htext⟩
    | str s =>
      by_cases hs : s = ""
      · subst hs
        exact ⟨_, .noText⟩
      · exact ⟨_, .text hs⟩
    | calendar time => exact ⟨_, .calendar time⟩

/-- The text of a value at a side is not empty. -/
theorem ne_of_sideText? {value : Value} {text : String} (h : value.sideText? = some text) :
    text ≠ "" := by
  cases value with
  | list items => cases h
  | map entries => cases h
  | scalar s =>
    cases s with
    | null => cases h
    | bool b => cases h
    | calendar time => cases h
    | str s =>
      unfold Value.sideText? at h
      dsimp only at h
      split_ifs at h with hs
      exact Option.some.inj h ▸ hs
    | num n =>
      obtain ⟨digits, hdigits, rfl⟩ := Option.map_eq_some_iff.mp h
      cases htext : n.styleText with
      | error fault =>
        rw [htext] at hdigits
        cases hdigits
      | ok shown =>
        rw [htext] at hdigits
        obtain rfl : shown = digits := Option.some.inj hdigits
        simpa using (Number.isStyleNumber_of_styleText htext).1

/-- What an entry without empty values says of sides is present. -/
theorem present_eq {entry : TokenEntry}
    (h : ∀ side text, entry.valueAt side = some text → text ≠ "") :
    entry.present =
      Side.order.filterMap fun side => (entry.valueAt side).map fun text => (side, text) := by
  unfold TokenEntry.present
  refine List.filterMap_congr fun side _ => ?_
  cases hvalue : entry.valueAt side with
  | none => rfl
  | some text => simp [h side text hvalue]

/-- What an entry says of a side is the text of the field for that side. -/
theorem valueAt_ofShape (shape : EntryShape) (entries : Value.Entries) (side : Side) :
    (TokenEntry.ofShape shape ((shape.parts entries).map (·.2.sideText?))).valueAt side =
      ((shape.parts entries).lookup side).bind Value.sideText? := by
  cases shape <;> cases side <;> rfl

/-- The values of an entry that are present are the texts of its fields. -/
theorem present_ofShape (shape : EntryShape) (entries : Value.Entries) :
    (TokenEntry.ofShape shape ((shape.parts entries).map (·.2.sideText?))).present =
      presentSides (shape.parts entries) := by
  rw [present_eq]
  · cases shape <;> rfl
  · intro side text htext
    rw [valueAt_ofShape] at htext
    obtain ⟨value, -, hvalue⟩ := Option.bind_eq_some_iff.mp htext
    exact ne_of_sideText? hvalue

/-- Data that is read as an entry, or as nothing, is not noted. -/
theorem notedSides_of_sound {raw : Value} {reading : EntryReading}
    (h : EntryReading.ofValue raw = .ok reading) (hsound : reading.problem? = none) :
    notedSides raw = .result reading.sides := by
  unfold notedSides
  rw [h]
  cases reading with
  | malformed reason => cases hsound
  | absent => rfl
  | found entry => rfl

/-- Malformed data is noted once. -/
theorem notedSides_of_malformed {raw : Value} {reason : String}
    (h : EntryReading.ofValue raw = .ok (.malformed reason)) :
    notedSides raw = ⟨[⟨raw, reason⟩], .ok []⟩ := by
  unfold notedSides
  rw [h]
  rfl

/-- A map that is not empty is read by its type. -/
theorem EntryReading.ofValue_map {entries : Value.Entries} (hne : entries ≠ []) :
    EntryReading.ofValue (.map entries) = EntryReading.ofEntries entries := by
  cases entries with
  | nil => exact absurd rfl hne
  | cons entry entries => rfl

/-- The fields of a shape without endless numbers are read. -/
theorem exists_readFields {entries : Value.Entries} {shape : EntryShape}
    (hrange : ¬(Value.map entries).HoldsEndless)
    (htype : entries.get? "type" = some (.str shape.name)) :
    ∃ readings, shape.readFields entries = .ok readings ∧
      List.Forall₂ (fun part reading => SideReading.ofValue part.2 = .ok reading.2)
        (shape.parts entries) readings := by
  have hread : ¬∃ fault, shape.readFields entries = .error fault := by
    rw [EntryShape.readFields_fault_iff]
    exact fun hendless => hrange ⟨_, (speaksOf_iff_of_type htype).mpr rfl, hendless⟩
  obtain ⟨readings, hreadings⟩ := exists_ok_iff.mpr hread
  exact ⟨readings, hreadings, EntryShape.forall₂_of_readFields hreadings⟩

/-- Values that may stand at sides are read as their texts. -/
theorem map_value?_of_fits {parts : List (Side × Value)} {readings : List (String × SideReading)}
    (h : List.Forall₂ (fun part reading => SideReading.ofValue part.2 = .ok reading.2)
      parts readings) (hfits : ∀ part ∈ parts, part.2.FitsSide) :
    readings.map (·.2.value?) = parts.map (·.2.sideText?) := by
  induction h with
  | nil => rfl
  | cons hreading _ ih =>
    obtain ⟨hfirst, hrest⟩ := List.forall_mem_cons.mp hfits
    rw [List.map_cons, List.map_cons, ih hrest, (SideReading.ofValue_of_fits hfirst hreading).1]

/-- A map of a known type is read without a note if its values may stand at its sides. -/
theorem readsAs_of_fits {entries : Value.Entries} {parts : List (Side × Value)}
    (hrange : ¬(Value.map entries).HoldsEndless) (hspeaks : SpeaksOf entries parts)
    (hfits : ∀ part ∈ parts, part.2.FitsSide) :
    ReadsAs (.map entries) (some (presentSides parts)) := by
  obtain ⟨shape, htype, rfl⟩ := speaksOf_iff.mp hspeaks
  obtain ⟨readings, hreadings, hfields⟩ := exists_readFields hrange htype
  have hne : entries ≠ [] := by
    rintro rfl
    cases htype
  have hreading : EntryReading.ofValue (.map entries) =
      .ok (.found (.ofShape shape ((shape.parts entries).map (·.2.sideText?)))) := by
    rw [EntryReading.ofValue_map hne, EntryReading.ofEntries_of_type htype, EntryReading.ofShape,
      hreadings, Except.map, (refusedFields_eq_nil_iff hfields).mpr hfits,
      map_value?_of_fits hfields hfits]
  rw [ReadsAs, notedSides_of_sound hreading rfl, EntryReading.sides, present_ofShape]

/-- A map is noted once if it has no known type, or a value that may not stand at its side. -/
theorem readsAs_of_not_fits {entries : Value.Entries} (hne : entries ≠ [])
    (hrange : ¬(Value.map entries).HoldsEndless)
    (h : ¬∃ parts, SpeaksOf entries parts ∧ ∀ part ∈ parts, part.2.FitsSide) :
    ReadsAs (.map entries) none := by
  suffices hmalformed : ∃ reason, EntryReading.ofEntries entries = .ok (.malformed reason) by
    obtain ⟨reason, hreason⟩ := hmalformed
    exact ⟨reason, notedSides_of_malformed ((EntryReading.ofValue_map hne).trans hreason)⟩
  by_cases hknown : ∃ shape : EntryShape, entries.get? "type" = some (.str shape.name)
  · obtain ⟨shape, htype⟩ := hknown
    obtain ⟨readings, hreadings, hfields⟩ := exists_readFields hrange htype
    have hrefused : refusedFields readings ≠ [] := by
      rw [ne_eq, refusedFields_eq_nil_iff hfields]
      exact fun hfits => h ⟨_, (speaksOf_iff_of_type htype).mpr rfl, hfits⟩
    obtain ⟨⟨field, reason⟩, others, hfirst⟩ := List.exists_cons_of_ne_nil hrefused
    rw [EntryReading.ofEntries_of_type htype, EntryReading.ofShape, hreadings, Except.map, hfirst]
    exact ⟨_, rfl⟩
  · exact EntryReading.ofEntries_of_no_type (not_exists.mp hknown)

/-- Reading data finds what it denotes. -/
theorem readsAs_of_denotes {raw : Value} {denoted : Option Sides} (hrange : ¬raw.HoldsEndless)
    (h : Denotes raw denoted) : ReadsAs raw denoted := by
  cases h with
  | null => rfl
  | false => rfl
  | noText => rfl
  | noEntries => rfl
  | true => exact ⟨_, rfl⟩
  | calendar time => exact ⟨_, rfl⟩
  | list items => exact ⟨_, rfl⟩
  | entry hspeaks hfits => exact readsAs_of_fits hrange hspeaks hfits
  | noEntry hne hbad => exact readsAs_of_not_fits hne hrange hbad
  | @text s hs =>
    have hreading : EntryReading.ofValue (.str s) = .ok (.found (.bare s)) := by
      simp [EntryReading.ofValue, SideReading.ofValue, Except.map, hs]
    rw [ReadsAs, notedSides_of_sound hreading rfl, EntryReading.sides, present_eq]
    · rfl
    · intro side text htext
      cases side <;> cases htext
      exact hs
  | @number n text htext =>
    have hreading : EntryReading.ofValue (.num n) = .ok (.found (.bare (String.ofList text))) := by
      simp [EntryReading.ofValue, SideReading.ofValue, Except.map, htext]
    rw [ReadsAs, notedSides_of_sound hreading rfl, EntryReading.sides, present_eq]
    · rfl
    · intro side shown hshown
      cases side <;> cases hshown
      simpa using (Number.isStyleNumber_of_styleText htext).1

/-- What is kept of a list, each under itself, keeps the order of the list. -/
theorem map_fst_filterMap_sublist {α β : Type} {f : α → Option (α × β)}
    (h : ∀ a kept, f a = some kept → kept.1 = a) (as : List α) :
    ((as.filterMap f).map (·.1)).Sublist as := by
  induction as with
  | nil => exact List.Sublist.refl []
  | cons a as ih =>
    cases hkept : f a with
    | none =>
      rw [List.filterMap_cons_none hkept]
      exact ih.cons a
    | some kept =>
      rw [List.filterMap_cons_some hkept, List.map_cons, h a kept hkept]
      exact ih.cons_cons a

/-- The side values of data come in the order of sides, each side at most once, and none is
empty. -/
theorem sublist_of_normalize {raw : Value} {sides : Sides} (h : normalize raw = .ok sides) :
    (sides.map (·.1)).Sublist Side.order ∧ ∀ side ∈ sides, side.2 ≠ "" := by
  obtain ⟨reading, -, rfl⟩ := map_eq_ok_iff.mp h
  cases reading with
  | absent => exact ⟨List.nil_sublist _, by simp [EntryReading.sides]⟩
  | malformed reason => exact ⟨List.nil_sublist _, by simp [EntryReading.sides]⟩
  | found entry =>
    refine ⟨map_fst_filterMap_sublist (fun side kept hkept => ?_) _,
      fun _ hmem => (TokenEntry.mem_present.mp hmem).2⟩
    cases hvalue : entry.valueAt side with
    | none => simp [hvalue] at hkept
    | some value =>
      simp only [hvalue] at hkept
      split_ifs at hkept
      rw [← Option.some.inj hkept]

/-- A map without a known type has no side values. -/
theorem normalize_map_of_no_parts {entries : Value.Entries}
    (h : ¬∃ parts, SpeaksOf entries parts) : normalize (.map entries) = .ok [] := by
  by_cases hne : entries = []
  · rw [hne]
    rfl
  · have hread : ReadsAs (.map entries) none := by
      refine readsAs_of_not_fits hne ?_ ?_
      all_goals
        rintro ⟨parts, hspeaks, -⟩
        exact h ⟨parts, hspeaks⟩
    obtain ⟨reason, hnoted⟩ := hread
    rw [← outcome_notedSides, hnoted]

/-- The side values of a map depend on nothing but the values that it speaks of. -/
theorem normalize_map_congr {entries entries' : Value.Entries}
    (h : ∀ parts, SpeaksOf entries parts ↔ SpeaksOf entries' parts) :
    normalize (.map entries) = normalize (.map entries') := by
  by_cases hknown : ∃ parts, SpeaksOf entries parts
  · obtain ⟨parts, hspeaks⟩ := hknown
    obtain ⟨shape, htype, rfl⟩ := speaksOf_iff.mp hspeaks
    obtain ⟨shape', htype', hparts⟩ := speaksOf_iff.mp ((h _).mp hspeaks)
    obtain rfl : shape = shape' := by
      cases shape <;> cases shape' <;> simp [EntryShape.parts, EntryShape.fields] at hparts ⊢
    have hread : shape.readFields entries = shape.readFields entries' := by
      refine mapM_eq_of_forall₂ (List.forall₂_same.mpr fun field hfield => ?_)
      obtain ⟨name, side⟩ := field
      have hsame := List.map_inj_left.mp hparts (name, side) hfield
      dsimp only at hsame ⊢
      rw [(Prod.mk.inj hsame).2]
    have hne : entries ≠ [] ∧ entries' ≠ [] := by
      constructor <;> rintro rfl
      · cases htype
      · cases htype'
    rw [normalize, normalize, EntryReading.ofValue_map hne.1, EntryReading.ofValue_map hne.2,
      EntryReading.ofEntries_of_type htype, EntryReading.ofEntries_of_type htype',
      EntryReading.ofShape, EntryReading.ofShape, hread]
  · rw [normalize_map_of_no_parts hknown, normalize_map_of_no_parts]
    rintro ⟨parts, hspeaks⟩
    exact hknown ⟨parts, (h parts).mpr hspeaks⟩

/-- In a map whose keys are different, the order of entries does not matter to what it says. -/
theorem speaksOf_iff_of_perm {entries entries' : Value.Entries} (hperm : entries.Perm entries')
    (hnodup : (entries.map (·.1)).Nodup) (parts : List (Side × Value)) :
    SpeaksOf entries parts ↔ SpeaksOf entries' parts := by
  have hfound := Value.Entries.get?_eq_of_perm hperm hnodup
  simp only [speaksOf_iff, EntryShape.parts, Value.Entries.get, hfound]

/-- Reading what was read finds the same. -/
theorem sides_source {raw : Value} {reading : EntryReading}
    (h : EntryReading.ofValue raw = .ok reading) : reading.source.sides = normalize raw := by
  rw [normalize, h]
  cases reading <;> rfl

/-- Reading data without endless numbers finds what it denotes, and notes it exactly if it is
malformed. What is found comes in the order of sides; it depends neither on the order of a map's
entries nor on any that the map does not speak of; and reading what was read finds the same. -/
theorem reading_denotes :
    (∀ raw, ¬raw.HoldsEndless →
      (∃ denoted, Denotes raw denoted) ∧ ∀ denoted, Denotes raw denoted → ReadsAs raw denoted) ∧
    (∀ raw sides, normalize raw = .ok sides →
      (sides.map (·.1)).Sublist Side.order ∧ ∀ side ∈ sides, side.2 ≠ "") ∧
    (∀ entries entries' : Value.Entries, entries.Perm entries' → (entries.map (·.1)).Nodup →
      normalize (.map entries) = normalize (.map entries')) ∧
    (∀ entries entries' : Value.Entries,
      (∀ parts, SpeaksOf entries parts ↔ SpeaksOf entries' parts) →
      normalize (.map entries) = normalize (.map entries')) ∧
    ∀ raw reading, EntryReading.ofValue raw = .ok reading →
      reading.source.sides = normalize raw := by
  refine ⟨fun raw hrange => ?_, fun raw sides hsides => sublist_of_normalize hsides,
    fun entries entries' hperm hnodup => ?_, fun entries entries' h => normalize_map_congr h,
    fun raw reading h => sides_source h⟩
  · exact ⟨exists_denotes hrange, fun denoted h => readsAs_of_denotes hrange h⟩
  · exact normalize_map_congr (speaksOf_iff_of_perm hperm hnodup)

/-- An entry for each axis, with a field more. -/
def axesEntries : Value.Entries :=
  [(.str "y", .int 4), (.str "type", .str "split"), (.str "extra", .bool true),
    (.str "x", .str "2")]

theorem speaksOf_axesEntries : SpeaksOf axesEntries [(.x, .str "2"), (.y, .int 4)] :=
  .split rfl

theorem not_holdsEndless_axesEntries : ¬(Value.map axesEntries).HoldsEndless := by
  rintro ⟨parts, hspeaks, part, hpart, n, hn, hendless⟩
  rw [(@speaksOf_iff_of_type _ _ .split rfl).mp hspeaks] at hpart
  rcases List.mem_cons.mp hpart with rfl | hrest
  · cases hn
  · obtain rfl := List.mem_singleton.mp hrest
    cases hn
    exact hendless (inDoubleRange_of_lt (by decide))

/-- The entry for each axis has its values in the order of sides, also without its further field,
when its fields are the other way round, or when it has been read already. -/
theorem reading_denotes_axesEntries :
    ¬(Value.map axesEntries).HoldsEndless ∧
      notedSides (.map axesEntries) = .result [(.x, "2"), (.y, "4")] ∧
      ([Side.x, Side.y].Sublist Side.order ∧ ∀ side ∈ [(Side.x, "2"), (.y, "4")], side.2 ≠ "") ∧
      normalize (.map axesEntries) = normalize (.map axesEntries.reverse) ∧
      normalize (.map axesEntries) = normalize (.map (axesEntries.eraseIdx 2)) ∧
      (EntrySource.entry (.split (some "2") (some "4"))).sides = normalize (.map axesEntries) := by
  obtain ⟨hreads, hordered, hperm, hspoken, hsource⟩ := reading_denotes
  have hdenotes : Denotes (.map axesEntries) (some [(.x, "2"), (.y, "4")]) := by
    refine .entry speaksOf_axesEntries fun part hpart => ?_
    rcases List.mem_cons.mp hpart with rfl | hrest
    · exact .text "2"
    · obtain rfl := List.mem_singleton.mp hrest
      exact .number _
  have hnoted := (hreads _ not_holdsEndless_axesEntries).2 _ hdenotes
  have hsides : normalize (.map axesEntries) = .ok [(.x, "2"), (.y, "4")] := by
    rw [← outcome_notedSides, hnoted]
    rfl
  have hreverse := hperm axesEntries axesEntries.reverse (List.reverse_perm _).symm (by decide)
  have hless : normalize (.map axesEntries) = normalize (.map (axesEntries.eraseIdx 2)) := by
    refine hspoken _ _ fun parts => ?_
    rw [@speaksOf_iff_of_type axesEntries parts .split rfl,
      @speaksOf_iff_of_type (axesEntries.eraseIdx 2) parts .split rfl]
    rfl
  refine ⟨not_holdsEndless_axesEntries, hnoted, hordered _ _ hsides, hreverse, hless, ?_⟩
  exact hsource (.map axesEntries) (.found (.split (some "2") (some "4"))) rfl

end StyleTokens
