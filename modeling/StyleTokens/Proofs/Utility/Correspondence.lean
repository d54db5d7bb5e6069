import StyleTokens.Proofs.Utility.Cascade
import StyleTokens.Proofs.Utility.Outline

/-!
# Classes and the rules of the sheet

Each class that a value can compile to has exactly one rule in the utility sheet: in the section of
its breakpoint, or in front of all media queries for the base. Only a gap on a single side has none,
and there are no other rules.
-/

namespace StyleTokens

/-- The selector of the rule for a class: that of the class, behind the marker of a gap. -/
def classSelector (category : StyleCategory) (slug : String) (side : Side) (value : String) :
    String :=
  (if category = .gap then ".has-gap" else "") ++ "." ++
    escapeSelector (className category.stem slug side value)

/-- The rule for a class has that selector. -/
theorem selector_eq_classSelector (category : StyleCategory) (slug : String) (side : Side)
    (value : String) (properties : List String) (text : String) :
    UtilityRule.selector
        ⟨category.marker?, className category.stem slug side value, properties, text⟩ =
      classSelector category slug side value := by
  cases category <;> rfl

/-- The mark of a category in front of its classes, as it is read. -/
def markText (category : StyleCategory) : List Char :=
  if category = .gap then "has-gap.".toList else []

/-- The class that is read in a selector. -/
theorem classOf_classSelector (category : StyleCategory) (slug : String) (side : Side)
    (value : String) :
    (StyleRule.classOf (classSelector category slug side value).toList).toList =
      markText category ++ (className category.stem slug side value).toList := by
  rw [← selector_eq_classSelector category slug side value [] "",
    UtilityRule.classOf_selector fun marker hmarker hslash =>
      (plain_marker category marker hmarker _ hslash).1 rfl,
    UtilityRule.classText, String.toList_append]
  cases category <;> rfl

/-- There is no colon in the mark of a category. -/
theorem colon_notMem_markText (category : StyleCategory) : ':' ∉ markText category := by
  cases category <;> decide

/-- Marks and what stands behind the breakpoint tell what stands behind the breakpoint. -/
theorem markText_append_inj {category category' : StyleCategory} {side side' : Side}
    {rest rest' : List Char}
    (h : markText category ++ (classStem category side ++ '-' :: rest) =
      markText category' ++ (classStem category' side' ++ '-' :: rest')) :
    classStem category side ++ '-' :: rest = classStem category' side' ++ '-' :: rest' := by
  cases category <;> cases category' <;>
    simp [markText, classStem, StyleCategory.stem] at h ⊢ <;> exact h

/-- Marked classes of parts without colons are equal only if all their parts are. -/
theorem marked_className_inj {category category' : StyleCategory} {slug slug' : String}
    {side side' : Side} {value value' : String}
    (hslug : ':' ∉ slug.toList) (hslug' : ':' ∉ slug'.toList)
    (hvalue : ':' ∉ value.toList) (hvalue' : ':' ∉ value'.toList)
    (h : markText category ++ (className category.stem slug side value).toList =
      markText category' ++ (className category'.stem slug' side' value').toList) :
    category = category' ∧ slug = slug' ∧ side = side' ∧ value = value' := by
  have hmark := colon_notMem_markText category
  have hmark' := colon_notMem_markText category'
  have hbody : ':' ∉ markText category ++ (classStem category side ++ '-' :: value.toList) := by
    simp [hmark, colon_notMem_classStem, hvalue]
  have hbody' : ':' ∉ markText category' ++ (classStem category' side' ++ '-' :: value'.toList) := by
    simp [hmark', colon_notMem_classStem, hvalue']
  rw [toList_className, toList_className] at h
  unfold breakpointQualifier at h
  -- A class has a colon exactly if its breakpoint is not the base.
  split at h <;> split at h
  · next hbase hbase' =>
    obtain ⟨rfl, rfl, rfl⟩ := classBody_inj (markText_append_inj h)
    exact ⟨rfl, hbase.trans hbase'.symm, rfl, rfl⟩
  · exact absurd (h ▸ by simp [String.toList_append]) hbody
  · exact absurd (h.symm ▸ by simp [String.toList_append]) hbody'
  · have hcut : (markText category ++ slug.toList) ++
          ':' :: (classStem category side ++ '-' :: value.toList) =
        (markText category' ++ slug'.toList) ++
          ':' :: (classStem category' side' ++ '-' :: value'.toList) := by
      simpa [String.toList_append] using h
    obtain ⟨hfront, hback⟩ := append_cons_inj_of_first (by simp [hmark, hslug])
      (by simp [hmark', hslug']) hcut
    obtain ⟨rfl, rfl, rfl⟩ := classBody_inj hback
    exact ⟨rfl, String.toList_injective (List.append_cancel_left hfront), rfl, rfl⟩

/-- There is no colon in a plain slug. -/
theorem colon_notMem_of_plainSlug {slug : String} (h : PlainSlug slug) : ':' ∉ slug.toList :=
  fun hmem => (h _ hmem).1 rfl

/-- Selectors of classes of plain parts are equal only if all the parts are. -/
theorem classSelector_inj {category category' : StyleCategory} {slug slug' : String}
    {side side' : Side} {value value' : String} (hslug : PlainSlug slug) (hslug' : PlainSlug slug')
    (hvalue : PlainSlug value) (hvalue' : PlainSlug value')
    (h : classSelector category slug side value = classSelector category' slug' side' value') :
    category = category' ∧ slug = slug' ∧ side = side' ∧ value = value' := by
  have hclass := classOf_classSelector category slug side value
  rw [h, classOf_classSelector] at hclass
  exact marked_className_inj (colon_notMem_of_plainSlug hslug) (colon_notMem_of_plainSlug hslug')
    (colon_notMem_of_plainSlug hvalue) (colon_notMem_of_plainSlug hvalue') hclass.symm

/-- Only a gap has sides that set no property: the single ones. -/
theorem sideProperties_eq_nil_iff (category : StyleCategory) (side : Side) :
    sideProperties category side = [] ↔
      category = .gap ∧ side ∈ [Side.top, .right, .bottom, .left] := by
  cases category <;> cases side <;> decide

section

variable {scale : List SpacingSize} {slug variableStem : String} {categories : List StyleCategory}

/-- The selectors of the rules of one side of a category. -/
theorem map_selector_sideRules (category : StyleCategory) (side : Side) :
    (sideRules slug variableStem scale category side).map UtilityRule.selector =
      if sideProperties category side = [] then []
      else scale.map fun size => classSelector category slug side size.slug := by
  unfold sideRules
  cases sideProperties category side with
  | nil => rfl
  | cons property properties =>
    rw [if_neg (List.cons_ne_nil _ _), List.map_map]
    exact List.map_congr_left fun size _ => selector_eq_classSelector _ _ _ _ _ _

/-- The selectors at a breakpoint are those of its classes, but for gaps on single sides. -/
theorem mem_map_selector_rulesAt {selector : String} :
    selector ∈ (rulesAt slug variableStem scale StyleCategory.order).map UtilityRule.selector ↔
      ∃ category side, ∃ size ∈ scale, sideProperties category side ≠ [] ∧
        selector = classSelector category slug side size.slug := by
  have horder (category : StyleCategory) : category ∈ StyleCategory.order := by
    cases category <;> decide
  rw [List.mem_map]
  constructor
  · rintro ⟨rule, hrule, rfl⟩
    obtain ⟨category, -, side, size, hsize, hproperties, rfl⟩ := mem_rulesAt.mp hrule
    exact ⟨category, side, size, hsize, hproperties, selector_eq_classSelector _ _ _ _ _ _⟩
  · rintro ⟨category, side, size, hsize, hproperties, rfl⟩
    exact ⟨_, mem_rulesAt.mpr ⟨category, horder category, side, size, hsize, hproperties, rfl⟩,
      selector_eq_classSelector _ _ _ _ _ _⟩

/-- The selectors of one side of a category are those of classes of that side. -/
theorem exists_of_mem_sideRules {category : StyleCategory} {side : Side} {selector : String}
    (h : selector ∈ (sideRules slug variableStem scale category side).map UtilityRule.selector) :
    ∃ size ∈ scale, classSelector category slug side size.slug = selector := by
  rw [map_selector_sideRules] at h
  split at h
  · simp at h
  · exact List.mem_map.mp h

/-- No two rules at a breakpoint have the same selector. -/
theorem nodup_map_selector_rulesAt (hslug : PlainSlug slug)
    (hplain : ∀ size ∈ scale, PlainSlug size.slug) (hscale : (scale.map (·.slug)).Nodup) :
    ((rulesAt slug variableStem scale StyleCategory.order).map UtilityRule.selector).Nodup := by
  have hinj {category category' : StyleCategory} {side side' : Side} {size size' : SpacingSize}
      (hsize : size ∈ scale) (hsize' : size' ∈ scale)
      (hsame : classSelector category slug side size.slug =
        classSelector category' slug side' size'.slug) :=
    classSelector_inj hslug hslug (hplain size hsize) (hplain size' hsize') hsame
  have hside (category : StyleCategory) (side : Side) :
      ((sideRules slug variableStem scale category side).map UtilityRule.selector).Nodup := by
    rw [map_selector_sideRules]
    split
    · exact List.nodup_nil
    · exact (List.Nodup.of_map _ hscale).map_on fun size hsize other hother hsame =>
        List.inj_on_of_nodup_map hscale hsize hother (hinj hsize hother hsame).2.2.2
  simp only [rulesAt, List.map_flatMap, List.nodup_flatMap]
  refine ⟨fun category _ => ⟨fun side _ => hside category side, ?_⟩, ?_⟩
  · refine (by decide : Side.order.Nodup).imp fun hne selector h h' => hne ?_
    obtain ⟨size, hsize, hselector⟩ := exists_of_mem_sideRules h
    obtain ⟨other, hother, hselector'⟩ := exists_of_mem_sideRules h'
    exact (hinj hsize hother (hselector.trans hselector'.symm)).2.2.1
  · refine (by decide : StyleCategory.order.Nodup).imp fun hne selector h h' => hne ?_
    obtain ⟨side, -, hmem⟩ := List.mem_flatMap.mp h
    obtain ⟨side', -, hmem'⟩ := List.mem_flatMap.mp h'
    obtain ⟨size, hsize, hselector⟩ := exists_of_mem_sideRules hmem
    obtain ⟨other, hother, hselector'⟩ := exists_of_mem_sideRules hmem'
    exact (hinj hsize hother (hselector.trans hselector'.symm)).1

/-- The class of a plain slug has one rule at its own breakpoint, and none at others; a gap on a
single side has none. -/
theorem count_selector_rulesAt {other : String} (hslug : PlainSlug slug)
    (hother : PlainSlug other) (hplain : ∀ size ∈ scale, PlainSlug size.slug)
    (hscale : (scale.map (·.slug)).Nodup) (category : StyleCategory) (side : Side)
    {size : SpacingSize} (hsize : size ∈ scale) :
    ((rulesAt slug variableStem scale StyleCategory.order).map UtilityRule.selector).count
        (classSelector category other side size.slug) =
      if other = slug ∧ ¬(category = .gap ∧ side ∈ [Side.top, .right, .bottom, .left]) then 1
      else 0 := by
  rw [List.Nodup.count (nodup_map_selector_rulesAt hslug hplain hscale)]
  refine if_congr ?_ rfl rfl
  rw [mem_map_selector_rulesAt, ← sideProperties_eq_nil_iff]
  constructor
  · rintro ⟨category', side', size', hsize', hproperties, hsame⟩
    obtain ⟨rfl, rfl, rfl, -⟩ :=
      classSelector_inj hother hslug (hplain size hsize) (hplain size' hsize') hsame
    exact ⟨rfl, hproperties⟩
  · rintro ⟨rfl, hproperties⟩
    exact ⟨category, side, size, hsize, hproperties, rfl⟩

end

/-- A section of a sheet holds the classes of a slug: for each class of one of the slugs there is
one rule if the slug is its own, and else none; a gap on a single side has none. There are no other
rules. -/
structure SheetSection.HoldsClasses (part : SheetSection) (scale : List SpacingSize)
    (slugs : List String) (slug : String) : Prop where
  /-- The classes of the slug have one rule each, those of the others none. -/
  count : ∀ category side, ∀ other ∈ slugs, ∀ size ∈ scale,
    part.selectors.count (classSelector category other side size.slug) =
      if other = slug ∧ ¬(category = .gap ∧ side ∈ [Side.top, .right, .bottom, .left]) then 1 else 0
  /-- Every rule is that of a class of the slug. -/
  only : ∀ selector ∈ part.selectors, ∃ category side, ∃ size ∈ scale,
    selector = classSelector category slug side size.slug

section

variable {scale : List SpacingSize} {breakpoints : List Breakpoint} {variableStem : String}

/-- The rules of plain slugs can be told apart in a sheet. -/
theorem parted_of_mem_rulesAt {slug : String} {categories : List StyleCategory}
    {rule : UtilityRule} (hslug : PlainSlug slug) (hplain : ∀ size ∈ scale, PlainSlug size.slug)
    (hsizes : ∀ size ∈ scale, BraceFree size.size) (hstem : BraceFree variableStem)
    (hrule : rule ∈ rulesAt slug variableStem scale categories) : rule.Parted := by
  have hselector := plain_selector_of_mem_rulesAt hslug hplain hrule
  obtain ⟨category, -, side, size, hsize, hproperties, rfl⟩ := mem_rulesAt.mp hrule
  refine ⟨hselector, UtilityRule.brace_notMem_body hproperties ?_ ?_⟩
  · exact fun property hproperty c hc => (plain_sideProperties category side property hproperty c
      hc).2.2.2
  · exact braceFree_value (hplain size hsize) (hsizes size hsize) hstem

/-- There are rules at each breakpoint. -/
theorem rulesAt_ne_nil (hne : scale ≠ []) (slug : String) :
    rulesAt slug variableStem scale StyleCategory.order ≠ [] := by
  obtain ⟨size, rest, rfl⟩ := List.exists_cons_of_ne_nil hne
  exact List.ne_nil_of_mem (mem_rulesAt.mpr ⟨.gap, by decide, .all, size, List.mem_cons_self,
    by decide, rfl⟩)

/-- The section of a plain slug holds its classes. -/
theorem holdsClasses_rulesAt {slug : String} {slugs : List String} (hslug : PlainSlug slug)
    (hslugs : ∀ other ∈ slugs, PlainSlug other) (hplain : ∀ size ∈ scale, PlainSlug size.slug)
    (hscale : (scale.map (·.slug)).Nodup) (width : Option String) :
    SheetSection.HoldsClasses (UtilitySection.outlined
      ⟨width, rulesAt slug variableStem scale StyleCategory.order⟩) scale slugs slug := by
  refine ⟨fun category side other hother size hsize => ?_, fun selector hselector => ?_⟩
  · exact count_selector_rulesAt hslug (hslugs other hother) hplain hscale category side hsize
  · obtain ⟨category, side, size, hsize, -, hselector⟩ := mem_map_selector_rulesAt.mp hselector
    exact ⟨category, side, size, hsize, hselector⟩

/-- The sheet of plain sections is read as these. -/
theorem outline_utilitySections (hne : scale ≠ []) (hplain : ∀ size ∈ scale, PlainSlug size.slug)
    (hsizes : ∀ size ∈ scale, BraceFree size.size)
    (hslugs : ∀ breakpoint ∈ breakpoints, PlainSlug breakpoint.slug)
    (hwidths : ∀ breakpoint ∈ breakpoints, BraceFree breakpoint.value)
    (hstem : BraceFree variableStem) :
    Outline.ofSheet
        (utilityText (utilitySections scale breakpoints StyleCategory.order variableStem)) =
      (utilitySections scale breakpoints StyleCategory.order variableStem).map
        UtilitySection.outlined := by
  have hparted {slug : String} (hslug : PlainSlug slug) :
      ∀ rule ∈ rulesAt slug variableStem scale StyleCategory.order, rule.Parted :=
    fun rule hrule => parted_of_mem_rulesAt hslug hplain hsizes hstem hrule
  refine outline_utilityText (hparted plainSlug_base) (rulesAt_ne_nil hne _) ?_ ?_
  · intro part hpart
    obtain ⟨breakpoint, hmem, rfl⟩ := List.mem_map.mp hpart
    have hbreakpoint := (mem_sortBreakpoints.mp hmem).1
    refine ⟨?_, hparted (hslugs breakpoint hbreakpoint)⟩
    rintro width ⟨⟩
    exact hwidths breakpoint hbreakpoint
  · intro part hpart
    obtain ⟨breakpoint, -, rfl⟩ := List.mem_map.mp hpart
    rfl

end

/-- A scale that is led by zero is not empty. -/
theorem ScaleSource.scale_ne_nil (source : ScaleSource) : source.scale ≠ [] := by
  have hzero (sizes : List SpacingSize) : SpacingSize.withZero sizes ≠ [] := by
    unfold SpacingSize.withZero
    split
    · rintro rfl
      simp at *
    · exact List.cons_ne_nil _ _
  rw [← source.scale_given]
  exact hzero _

/-- Sections of a sheet correspond to the classes of a scale: first the one of all widths, then one
for each breakpoint but the base, in a media query of its width and in the given order. Each section
holds the classes of its own slug. -/
structure Corresponds (scale : List SpacingSize) (breakpoints order : List Breakpoint)
    (sections : List SheetSection) : Prop where
  /-- All breakpoints but the base are in the order. -/
  perm : order.Perm (breakpoints.filter fun breakpoint => !breakpoint.isBase)
  /-- No two sections belong to the same slug. -/
  distinct : (baseBreakpoint :: order.map (·.slug)).Nodup
  /-- Every section but the first stands in the media query of its breakpoint. -/
  queries : sections.map (·.query) =
    none :: order.map fun breakpoint => some (widthQuery breakpoint.value)
  /-- Every section holds the classes of its slug and no others. -/
  classes : List.Forall₂
    (fun slug part => SheetSection.HoldsClasses part scale
      (baseBreakpoint :: breakpoints.map (·.slug)) slug)
    (baseBreakpoint :: order.map (·.slug)) sections

/-- Classes and rules correspond. For a scale that is not empty, with plain and distinct slugs, each
class of the base or of a breakpoint has exactly one rule in the sheet, which stands in the section
of its breakpoint; only a gap on a single side has none. There are no other rules. -/
theorem sheet_corresponds {source : ScaleSource} {breakpoints : List Breakpoint}
    {variableStem : String} (hgiven : source.isEmpty = false)
    (hscale : (source.scale.map (·.slug)).Nodup) (hbreakpoints : (breakpoints.map (·.slug)).Nodup)
    (hplain : ∀ size ∈ source.scale, PlainSlug size.slug)
    (hslugs : ∀ breakpoint ∈ breakpoints, PlainSlug breakpoint.slug)
    (hsizes : ∀ size ∈ source.scale, BraceFree size.size)
    (hwidths : ∀ breakpoint ∈ breakpoints, BraceFree breakpoint.value)
    (hstem : BraceFree variableStem) :
    ∃ css order, source.sheet breakpoints variableStem = .ok css ∧
      Corresponds source.scale breakpoints order (Outline.ofSheet css) := by
  have horder : (sortBreakpoints breakpoints).Perm
      (breakpoints.filter fun breakpoint => !breakpoint.isBase) := List.mergeSort_perm _ _
  have hall : ∀ slug ∈ baseBreakpoint :: breakpoints.map (·.slug), PlainSlug slug := by
    intro slug hslug
    rcases List.mem_cons.mp hslug with rfl | hmem
    · exact plainSlug_base
    · obtain ⟨breakpoint, hbreakpoint, rfl⟩ := List.mem_map.mp hmem
      exact hslugs breakpoint hbreakpoint
  refine ⟨_, sortBreakpoints breakpoints, ScaleSource.sheet_eq_ok hgiven _ _, horder, ?_, ?_, ?_⟩
  · refine List.nodup_cons.mpr ⟨fun hmem => ?_, ?_⟩
    · obtain ⟨breakpoint, hbreakpoint, hbase⟩ := List.mem_map.mp hmem
      exact (mem_sortBreakpoints.mp hbreakpoint).2 hbase
    · rw [(horder.map _).nodup_iff]
      exact hbreakpoints.sublist (List.Sublist.map _ List.filter_sublist)
  · rw [outline_utilitySections source.scale_ne_nil hplain hsizes hslugs hwidths hstem]
    simp [utilitySections, UtilitySection.outlined, Function.comp_def]
  · rw [outline_utilitySections source.scale_ne_nil hplain hsizes hslugs hwidths hstem,
      utilitySections, List.map_cons, List.map_map]
    refine .cons (holdsClasses_rulesAt plainSlug_base hall hplain hscale none) ?_
    rw [List.forall₂_map_left_iff, List.forall₂_map_right_iff, List.forall₂_same]
    intro breakpoint hmem
    exact holdsClasses_rulesAt (hslugs breakpoint (mem_sortBreakpoints.mp hmem).1) hall hplain
      hscale (some breakpoint.value)

/-- The base, and a breakpoint that depends on more than a width. -/
def wideBreakpoints : List Breakpoint :=
  [⟨"base", "Base", "0"⟩, ⟨"md", "Medium", "48em) and (orientation: landscape"⟩]

theorem sheet_corresponds_singleScale :
    ∃ css order, singleScale.sheet wideBreakpoints defaultVariableStem = .ok css ∧
      Corresponds singleScale.scale wideBreakpoints order (Outline.ofSheet css) := by
  have hscale : singleScale.scale = [SpacingSize.zero, ⟨"4", "Four", "1rem"⟩] := by
    simp [singleScale, ScaleSource.scale, SpacingSize.withZero, SpacingSize.zero]
  refine sheet_corresponds rfl ?_ ?_ ?_ ?_ ?_ ?_ ?_
  · rw [hscale]
    decide
  · decide
  · rw [hscale]
    simp [PlainSlug, SpacingSize.zero]
    decide
  · simp [PlainSlug, wideBreakpoints]
    decide
  · rw [hscale]
    simp [BraceFree, SpacingSize.zero]
  · simp [BraceFree, wideBreakpoints]
  · simp [BraceFree, defaultVariableStem]

end StyleTokens
