import StyleTokens.Proofs.ClassName.Spacing

/-!
# Classes tell what they are made of

As long as there are no colons in breakpoints and values, a class name tells its category, its
breakpoint, its side and its value. A responsive value has each breakpoint once, and each side at
most once there, so it has no class twice.
-/

namespace StyleTokens

/-- No two sides of an entry have the same class. -/
theorem nodup_entryClasses (category : StyleCategory) {slug : String} {sides : Sides}
    (hslug : ':' ∉ slug.toList) (hvalues : ∀ side ∈ sides, ':' ∉ side.2.toList)
    (hsides : (sides.map (·.1)).Nodup) : (entryClasses category slug sides).Nodup := by
  refine List.Nodup.map_on ?_ hsides.of_map
  rintro ⟨side, value⟩ hside ⟨side', value'⟩ hside' hsame
  obtain ⟨-, -, rfl, rfl⟩ :=
    className_inj hslug hslug (hvalues _ hside) (hvalues _ hside') hsame
  rfl

/-- A class of one breakpoint is no class of another. -/
theorem disjoint_entryClasses (category : StyleCategory) {slug slug' : String}
    {sides sides' : Sides} (hne : slug ≠ slug') (hslug : ':' ∉ slug.toList) (hslug' : ':' ∉ slug'.toList)
    (hvalues : ∀ side ∈ sides, ':' ∉ side.2.toList)
    (hvalues' : ∀ side ∈ sides', ':' ∉ side.2.toList) :
    (entryClasses category slug sides).Disjoint (entryClasses category slug' sides') := by
  intro name hname hname'
  obtain ⟨side, hside, rfl⟩ := List.mem_map.mp hname
  obtain ⟨side', hside', hsame⟩ := List.mem_map.mp hname'
  exact hne (className_inj hslug hslug' (hvalues _ hside) (hvalues' _ hside') hsame.symm).2.1

/-- The sides that are read at a breakpoint of a map; none where reading fails. -/
def sidesAt (entries : Value.Entries) (key : Scalar) : Sides :=
  (normalize ((entries.find? key).getD .null)).toOption.getD []

/-- The classes at some breakpoints are those of the sides that are read there. -/
theorem eq_flatMap_of_classesAt {category : StyleCategory} {entries : Value.Entries}
    {keys : List Scalar} {classes : List String}
    (h : (classesAt category entries keys).outcome = .ok classes) :
    classes = keys.flatMap fun key => entryClasses category key.display (sidesAt entries key) := by
  induction keys generalizing classes with
  | nil => exact (Except.ok.inj h).symm
  | cons key keys ih =>
    rw [classesAt] at h
    obtain ⟨sides, hsides, h⟩ := Noted.outcome_bind_eq_ok_iff.mp h
    obtain ⟨others, hothers, h⟩ := Noted.outcome_bind_eq_ok_iff.mp h
    have hread : sidesAt entries key = sides := by
      rw [outcome_notedSides] at hsides
      rw [sidesAt, hsides]
      rfl
    rw [List.flatMap_cons, hread, ← ih hothers]
    exact (Except.ok.inj h).symm

/-- The sides that are read at a breakpoint are different ones. -/
theorem nodup_sidesAt (entries : Value.Entries) (key : Scalar) :
    ((sidesAt entries key).map (·.1)).Nodup := by
  unfold sidesAt
  cases hread : normalize ((entries.find? key).getD .null) with
  | error fault => exact List.nodup_nil
  | ok sides => exact (show Side.order.Nodup by decide).sublist (sublist_of_normalize hread).1

/-- No colon stands in a breakpoint of a map or in a value of a side there. -/
structure Value.Entries.HasNoColon (entries : Value.Entries) : Prop where
  /-- Breakpoints are texts without colons. -/
  slugs : ∀ entry ∈ entries, ∃ slug, entry.1 = .str slug ∧ ':' ∉ slug.toList
  /-- The values that are read have no colons. -/
  values : ∀ entry ∈ entries, ∀ sides, normalize entry.2 = .ok sides →
    ∀ side ∈ sides, ':' ∉ side.2.toList

/-- The keys of a map without colons are texts without them. -/
theorem Value.Entries.HasNoColon.exists_slug {entries : Value.Entries} (h : entries.HasNoColon)
    {key : Scalar} (hkey : key ∈ entries.map (·.1)) :
    ∃ slug, key = .str slug ∧ ':' ∉ slug.toList := by
  obtain ⟨entry, hentry, rfl⟩ := List.mem_map.mp hkey
  exact h.slugs entry hentry

theorem Value.Entries.HasNoColon.sidesAt {entries : Value.Entries} (h : entries.HasNoColon)
    {slug : String} : ∀ side ∈ sidesAt entries (.str slug), ':' ∉ side.2.toList := by
  unfold StyleTokens.sidesAt
  cases hfound : entries.find? (.str slug) with
  | none => exact fun side hside => by cases hside
  | some raw =>
    rw [Option.getD_some]
    cases hread : normalize raw with
    | error fault => exact fun side hside => by cases hside
    | ok sides => exact h.values _ (mem_of_find?_eq_some hfound) sides hread

/-- The classes at different breakpoints are all different. -/
theorem nodup_flatMap_entryClasses (category : StyleCategory) {entries : Value.Entries}
    (hcolon : entries.HasNoColon) {keys : List Scalar} (hkeys : keys ⊆ entries.map (·.1))
    (hnodup : keys.Nodup) :
    (keys.flatMap fun key => entryClasses category key.display (sidesAt entries key)).Nodup := by
  have htext : ∀ key ∈ keys, ∃ slug, key = .str slug ∧ ':' ∉ slug.toList := fun _ hkey =>
    hcolon.exists_slug (hkeys hkey)
  rw [List.nodup_flatMap]
  constructor
  · intro key hkey
    obtain ⟨slug, rfl, hslug⟩ := htext key hkey
    exact nodup_entryClasses category hslug hcolon.sidesAt (nodup_sidesAt entries _)
  · refine hnodup.imp_of_mem fun {key key'} hkey hkey' hne => ?_
    obtain ⟨slug, rfl, hslug⟩ := htext key hkey
    obtain ⟨slug', rfl, hslug'⟩ := htext key' hkey'
    have hne : slug ≠ slug' := fun hsame => hne (congrArg Scalar.str hsame)
    exact disjoint_entryClasses category hne hslug hslug' hcolon.sidesAt hcolon.sidesAt

/-- The classes of a map are its marked ones at the breakpoints in the order asked for. -/
theorem eq_of_responsiveClasses {category : StyleCategory} {entries : Value.Entries}
    {slugs : List Scalar} {classes : List String}
    (h : (responsiveClasses category entries slugs).outcome = .ok classes) :
    classes = withMarker category ((orderedKeys (entries.map (·.1)) slugs).flatMap fun key =>
      entryClasses category key.display (sidesAt entries key)) := by
  obtain ⟨unmarked, hunmarked, h⟩ := Noted.outcome_bind_eq_ok_iff.mp h
  rw [← eq_flatMap_of_classesAt hunmarked]
  exact (Except.ok.inj h).symm

/-- Different classes stay different behind a marker that is none of them. -/
theorem nodup_withMarker {category : StyleCategory} {classes : List String}
    (hmarker : ∀ name ∈ classes, name ≠ "has-gap") (h : classes.Nodup) :
    (withMarker category classes).Nodup := by
  rw [withMarker_eq]
  split_ifs
  · exact h
  · cases category with
    | gap => exact List.nodup_cons.mpr ⟨fun hmem => hmarker _ hmem rfl, h⟩
    | padding => exact h
    | margin => exact h

/-- A map without colons has no class twice. -/
theorem nodup_responsiveClasses {category : StyleCategory} {entries : Value.Entries}
    {slugs : List Scalar} {classes : List String} (hcolon : entries.HasNoColon)
    (hnodup : (entries.map (·.1)).Nodup)
    (h : (responsiveClasses category entries slugs).outcome = .ok classes) : classes.Nodup := by
  have htexts : ∀ key ∈ entries.map (·.1), ∃ slug, key = .str slug := fun _ hkey =>
    (hcolon.exists_slug hkey).imp fun _ hslug => hslug.1
  rw [eq_of_responsiveClasses h]
  refine nodup_withMarker (fun name hname => ?_) (nodup_flatMap_entryClasses category hcolon
    (fun key hkey => (mem_orderedKeys htexts).mp hkey) (nodup_orderedKeys htexts hnodup))
  obtain ⟨key, -, hname⟩ := List.mem_flatMap.mp hname
  obtain ⟨⟨side, value⟩, -, rfl⟩ := List.mem_map.mp hname
  exact (className_ne_marker category key.display side value).2

/-- The class name of texts and the name of a side. -/
theorem classNameOfValues_texts (stem slug : String) (side : Side) (value : String) :
    classNameOfValues (.str stem) (.str slug) (.str side.name) (.str value) =
      .ok (className stem slug side value) := by
  cases side <;> rfl

/-- Class names of parts without colons tell their parts. So a map whose breakpoints and values have
no colons has no class twice, in whatever order its breakpoints are asked for. -/
theorem classNames_tell_parts :
    (∀ (category category' : StyleCategory) (slug slug' : String) (side side' : Side)
      (value value' : String), ':' ∉ slug.toList → ':' ∉ slug'.toList →
      ':' ∉ value.toList → ':' ∉ value'.toList →
      classNameOfValues (.str category.stem) (.str slug) (.str side.name) (.str value) =
        classNameOfValues (.str category'.stem) (.str slug') (.str side'.name) (.str value') →
      category = category' ∧ slug = slug' ∧ side = side' ∧ value = value') ∧
    ∀ (category : StyleCategory) (entries : Value.Entries) (order : Value) (classes : List String),
      entries.HasNoColon → (entries.map (·.1)).Nodup →
      (compileResponsive (.str category.name) (.map entries) order).outcome = .ok classes →
      classes.Nodup := by
  constructor
  · intro category category' slug slug' side side' value value' hslug hslug' hvalue hvalue' hsame
    rw [classNameOfValues_texts, classNameOfValues_texts] at hsame
    exact className_inj hslug hslug' hvalue hvalue' (Except.ok.inj hsame)
  · intro category entries order classes hcolon hnodup h
    rw [compileResponsive_name] at h
    cases entries with
    | nil =>
      cases h
      exact List.nodup_nil
    | cons entry entries =>
      obtain ⟨slugs, -, h⟩ := Noted.outcome_bind_eq_ok_iff.mp h
      exact nodup_responsiveClasses hcolon hnodup h

/-- A gap with hyphens in a breakpoint and in its values. -/
def hyphenGap : Value.Entries :=
  [(.str "m-d", .map [(.str "type", .str "split"), (.str "x", .int (-1)), (.str "y", .str "-1")]),
    (.str "base", .str "x-1")]

theorem hasNoColon_hyphenGap : hyphenGap.HasNoColon := by
  constructor
  · simp only [hyphenGap, List.forall_mem_cons]
    exact ⟨⟨"m-d", rfl, by decide⟩, ⟨"base", rfl, by decide⟩, by simp⟩
  · simp only [hyphenGap, List.forall_mem_cons]
    refine ⟨?_, ?_, by simp⟩
    · intro sides hsides
      cases (show Except.ok [(Side.x, "-1"), (.y, "-1")] = Except.ok sides from hsides)
      decide
    · intro sides hsides
      cases (show Except.ok [(Side.all, "x-1")] = Except.ok sides from hsides)
      decide

/-- That gap has four different classes, and each of them tells its parts. -/
theorem classNames_tell_parts_hyphenGap :
    hyphenGap.HasNoColon ∧ (hyphenGap.map (·.1)).Nodup ∧
      (compileResponsive (.str "gap") (.map hyphenGap) .null).outcome =
        .ok ["has-gap", "m-d:gapx--1", "m-d:gapy--1", "gap-x-1"] ∧
      ["has-gap", "m-d:gapx--1", "m-d:gapy--1", "gap-x-1"].Nodup ∧
      ∀ (category : StyleCategory) (slug : String) (side : Side) (value : String),
        ':' ∉ slug.toList → ':' ∉ value.toList →
        classNameOfValues (.str category.stem) (.str slug) (.str side.name) (.str value) =
          .ok "m-d:gapx--1" →
        category = .gap ∧ slug = "m-d" ∧ side = .x ∧ value = "-1" := by
  obtain ⟨hparts, hdifferent⟩ := classNames_tell_parts
  refine ⟨hasNoColon_hyphenGap, by decide, rfl,
    hdifferent .gap hyphenGap .null _ hasNoColon_hyphenGap (by decide) rfl, ?_⟩
  intro category slug side value hslug hvalue hname
  exact hparts category .gap slug "m-d" side .x value "-1" hslug (by decide) hvalue (by decide)
    hname

end StyleTokens
