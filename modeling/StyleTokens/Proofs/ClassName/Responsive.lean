import StyleTokens.Proofs.ClassName.Order
import StyleTokens.Proofs.Outcome

/-!
# The classes of a responsive value

In whatever order its breakpoints are asked for, a responsive value has the classes of all its
entries and no others.
-/

namespace StyleTokens

/-- What is noted on the way has no influence on the side values. -/
theorem outcome_notedSides (raw : Value) : (notedSides raw).outcome = normalize raw := by
  cases hreading : EntryReading.ofValue raw with
  | error fault =>
    simp only [notedSides, normalize, hreading]
    rfl
  | ok reading =>
    simp only [notedSides, normalize, hreading]
    cases reading <;> rfl

/-- The classes of the entries at some breakpoints. -/
theorem exists_classesAt (category : StyleCategory) {entries : Value.Entries} {keys : List Scalar}
    (h : ∀ key ∈ keys, ∃ sides, normalize ((entries.find? key).getD .null) = .ok sides) :
    ∃ classes, (classesAt category entries keys).outcome = .ok classes ∧
      ∀ name, name ∈ classes ↔ ∃ key ∈ keys, ∃ sides,
        normalize ((entries.find? key).getD .null) = .ok sides ∧
          name ∈ entryClasses category key.display sides := by
  induction keys with
  | nil => exact ⟨[], rfl, by simp⟩
  | cons key keys ih =>
    obtain ⟨sides, hsides⟩ := h key (by simp)
    obtain ⟨classes, hclasses, hmem⟩ := ih fun other hother => h other (List.mem_cons_of_mem _ hother)
    refine ⟨entryClasses category key.display sides ++ classes, ?_, ?_⟩
    · unfold classesAt
      rw [Noted.outcome_bind_eq_ok_iff]
      refine ⟨sides, (outcome_notedSides _).trans hsides, ?_⟩
      rw [Noted.outcome_bind_eq_ok_iff]
      exact ⟨classes, hclasses, rfl⟩
    · intro name
      rw [List.mem_append, hmem]
      constructor
      · rintro (hname | ⟨other, hother, hrest⟩)
        · exact ⟨key, by simp, sides, hsides, hname⟩
        · exact ⟨other, List.mem_cons_of_mem _ hother, hrest⟩
      · rintro ⟨other, hother, sides', hsides', hname⟩
        rcases List.mem_cons.mp hother with rfl | hmem'
        · rw [hsides] at hsides'
          cases hsides'
          exact Or.inl hname
        · exact Or.inr ⟨other, hmem', sides', hsides', hname⟩

/-- A category is known by its name. -/
theorem categoryOfValue_name (category : StyleCategory) :
    categoryOfValue (.str category.name) = .ok category := by
  cases category <;> rfl

/-- The classes of a known category are those of the responsive value. -/
theorem compileResponsive_name (category : StyleCategory) (value order : Value) :
    compileResponsive (.str category.name) value order =
      responsiveClassesOfValue category value order := by
  unfold compileResponsive
  split
  · rw [categoryOfValue_name]
    rfl
  · next hmap =>
    unfold responsiveClassesOfValue
    split
    · next entry entries => exact absurd rfl (hmap entry entries)
    · rfl

/-- What has its place in an order are the breakpoints with an entry. -/
theorem mem_orderedKeys_iff_find? {entries : Value.Entries} {slugs : List Scalar} {key : Scalar}
    (hkeys : ∀ key ∈ entries.map (·.1), ∃ slug, key = .str slug) :
    key ∈ orderedKeys (entries.map (·.1)) slugs ↔
      ∃ slug raw, key = .str slug ∧ entries.find? key = some raw := by
  rw [mem_orderedKeys hkeys]
  constructor
  · intro hkey
    obtain ⟨slug, rfl⟩ := hkeys key hkey
    obtain ⟨raw, hraw⟩ := find?_eq_some_of_mem hkey
    exact ⟨slug, raw, rfl, hraw⟩
  · rintro ⟨slug, raw, rfl, hraw⟩
    exact List.mem_map.mpr ⟨_, mem_of_find?_eq_some hraw, rfl⟩

/-- Only the gap has a marker. -/
theorem StyleCategory.marker?_eq_none {category : StyleCategory} (hbox : category ≠ .gap) :
    category.marker? = none := by
  cases category with
  | gap => exact absurd rfl hbox
  | padding => rfl
  | margin => rfl

/-- A responsive value of padding or margin has the classes at its breakpoints, and no marker. -/
theorem compileResponsive_of_classesAt {category : StyleCategory} (hbox : category ≠ .gap)
    {entries : Value.Entries} {order : Value} {slugs : List Scalar} {classes : List String}
    (horder : breakpointOrder order = .ok slugs)
    (hclasses : (classesAt category entries (orderedKeys (entries.map (·.1)) slugs)).outcome =
      .ok classes) :
    (compileResponsive (.str category.name) (.map entries) order).outcome = .ok classes := by
  have hmarker := StyleCategory.marker?_eq_none hbox
  cases entries with
  | nil =>
    have hnone : orderedKeys [] slugs = [] := by simp [orderedKeys]
    rw [List.map_nil, hnone] at hclasses
    cases hclasses
    rfl
  | cons entry entries =>
    rw [compileResponsive_name]
    unfold responsiveClassesOfValue responsiveClasses
    simp only [Noted.outcome_bind_eq_ok_iff, Noted.outcome_quiet]
    refine ⟨slugs, horder, classes, hclasses, ?_⟩
    cases classes <;> simp [withMarker, hmarker]

/-- A responsive value of padding or margin that is read without a fault has the classes of all
that its entries set. -/
theorem exists_compileResponsive {category : StyleCategory} (hbox : category ≠ .gap)
    {entries : Value.Entries} {order : Value} {slugs : List Scalar}
    (hentries : ∀ entry ∈ entries, ∃ slug, entry.1 = .str slug ∧
      ∃ sides, normalize entry.2 = .ok sides)
    (horder : breakpointOrder order = .ok slugs) :
    ∃ classes, (compileResponsive (.str category.name) (.map entries) order).outcome = .ok classes ∧
      ∀ name, name ∈ classes ↔ ∃ slug raw sides, entries.find? (.str slug) = some raw ∧
        normalize raw = .ok sides ∧ ∃ side value, (side, value) ∈ sides ∧
          name = className category.stem slug side value := by
  have hkeys : ∀ key ∈ entries.map (·.1), ∃ slug, key = .str slug := by
    intro key hkey
    obtain ⟨entry, hentry, rfl⟩ := List.mem_map.mp hkey
    obtain ⟨slug, hslug, -⟩ := hentries entry hentry
    exact ⟨slug, hslug⟩
  have hsides : ∀ key ∈ orderedKeys (entries.map (·.1)) slugs,
      ∃ sides, normalize ((entries.find? key).getD .null) = .ok sides := by
    intro key hkey
    obtain ⟨slug, raw, rfl, hraw⟩ := (mem_orderedKeys_iff_find? hkeys).mp hkey
    obtain ⟨-, -, sides, hsides⟩ := hentries _ (mem_of_find?_eq_some hraw)
    exact ⟨sides, by rw [hraw]; exact hsides⟩
  obtain ⟨classes, hclasses, hmem⟩ := exists_classesAt category hsides
  refine ⟨classes, compileResponsive_of_classesAt hbox horder hclasses, fun name => ?_⟩
  rw [hmem]
  constructor
  · rintro ⟨key, hkey, sides, hsides, hname⟩
    obtain ⟨slug, raw, rfl, hraw⟩ := (mem_orderedKeys_iff_find? hkeys).mp hkey
    rw [hraw] at hsides
    obtain ⟨⟨side, value⟩, hside, rfl⟩ := List.mem_map.mp hname
    exact ⟨slug, raw, sides, hraw, hsides, side, value, hside, rfl⟩
  · rintro ⟨slug, raw, sides, hraw, hsides, side, value, hside, rfl⟩
    have hkey : .str slug ∈ orderedKeys (entries.map (·.1)) slugs :=
      (mem_orderedKeys_iff_find? hkeys).mpr ⟨slug, raw, rfl, hraw⟩
    exact ⟨.str slug, hkey, sides, by rw [hraw]; exact hsides,
      List.mem_map.mpr ⟨(side, value), hside, rfl⟩⟩

end StyleTokens
