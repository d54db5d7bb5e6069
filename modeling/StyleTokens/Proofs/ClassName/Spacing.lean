import StyleTokens.Proofs.ClassName.Distinct
import StyleTokens.Proofs.ClassName.Stop

/-!
# The classes of an element

The classes of an element are those of its gap, its padding and its margin. A marker stands in front
of the gap's classes and another one in front of all, but where no class follows there is no marker.
Malformed entries are noted, each once, and change nothing else; neither does any other attribute.
-/

namespace StyleTokens

/-- The classes of an element's gap, padding and margin, with the marker of the gap. -/
def markedClasses (stops : StyleCategory → List Stop) : List String :=
  (if Stop.classes .gap (stops .gap) = [] then [] else ["has-gap"]) ++
    Stop.classes .gap (stops .gap) ++ Stop.classes .padding (stops .padding) ++
    Stop.classes .margin (stops .margin)

/-- What has to come of the stops of an element's responsive values: their classes as one text, and
the notes. -/
structure IsCompiled (stops : StyleCategory → List Stop) (compiled : Noted Malformed String) :
    Prop where
  /-- Without a value of a side there is no text. -/
  blank : (∀ category, ∀ stop ∈ stops category, stop.sides = []) → compiled.outcome = .ok ""
  /-- With one, the classes stand behind the marker of the element. -/
  text : (∃ category, ∃ stop ∈ stops category, stop.sides ≠ []) →
    compiled.outcome = .ok (joinClasses ("has-spacing" :: markedClasses stops))
  /-- The sides of a stop come in their order, each at most once. -/
  ordered : ∀ category, ∀ stop ∈ stops category, (stop.sides.map (·.1)).Sublist Side.order
  /-- No class of a stop is a marker. -/
  unmarked : ∀ category, ∀ name ∈ Stop.classes category (stops category),
    name ≠ "has-spacing" ∧ name ≠ "has-gap"
  /-- Malformed data is noted in the order of the stops, each time once. -/
  notes : compiled.notes.map (·.raw) = Stop.malformed (stops .gap) ++
    Stop.malformed (stops .padding) ++ Stop.malformed (stops .margin)

/-! ### Markers -/

/-- A class name is no marker: it has a colon, or it begins with a stem. -/
theorem className_ne_marker (category : StyleCategory) (slug : String) (side : Side)
    (value : String) : className category.stem slug side value ≠ "has-spacing" ∧
      className category.stem slug side value ≠ "has-gap" := by
  have hne : ∀ marker : List Char, ':' ∉ marker → marker.head? = some 'h' →
      (className category.stem slug side value).toList ≠ marker := by
    rintro marker hcolon hhead rfl
    rw [toList_className, breakpointQualifier] at hcolon hhead
    by_cases hbase : slug = baseBreakpoint
    · rw [if_pos hbase] at hhead
      cases category <;> simp [classStem, StyleCategory.stem] at hhead
    · rw [if_neg hbase] at hcolon
      simp [String.toList_append] at hcolon
  constructor
  · exact fun hsame => hne _ (by decide) (by decide) (congrArg String.toList hsame)
  · exact fun hsame => hne _ (by decide) (by decide) (congrArg String.toList hsame)

theorem Stop.ne_marker_of_mem_classes {category : StyleCategory} {stops : List Stop} {name : String}
    (h : name ∈ classes category stops) : name ≠ "has-spacing" ∧ name ≠ "has-gap" := by
  obtain ⟨stop, -, hname⟩ := List.mem_flatMap.mp h
  obtain ⟨⟨side, value⟩, -, rfl⟩ := List.mem_map.mp hname
  exact className_ne_marker category stop.slug side value

/-! ### Elements -/

/-- An empty map of attributes is compiled as any other. -/
theorem compileSpacing_map (attributes : Value.Entries) (order : Value) :
    compileSpacing (.map attributes) order =
      spacingClasses attributes order >>= fun classes => pure (joinClasses classes) := by
  cases attributes with
  | nil => rfl
  | cons entry attributes => rfl

/-- Attributes that are no category make no difference. -/
theorem compileSpacing_congr {attributes attributes' : Value.Entries} (order : Value)
    (h : ∀ category : StyleCategory,
      attributes.get category.name = attributes'.get category.name) :
    compileSpacing (.map attributes) order = compileSpacing (.map attributes') order := by
  rw [compileSpacing_map, compileSpacing_map, spacingClasses, spacingClasses]
  simp only [h]

/-- The classes of all categories are those of the gap, the padding and the margin. -/
theorem flatten_withMarker (stops : StyleCategory → List Stop) :
    (StyleCategory.order.map fun category =>
      withMarker category (Stop.classes category (stops category))).flatten =
      markedClasses stops := by
  simp [StyleCategory.order, withMarker_eq, markedClasses, StyleCategory.marker?]

/-- There are no classes of an element exactly if no side has a value. -/
theorem markedClasses_eq_nil_iff {stops : StyleCategory → List Stop} :
    markedClasses stops = [] ↔ ∀ category, ∀ stop ∈ stops category, stop.sides = [] := by
  have hsides : ∀ category, (∀ stop ∈ stops category, stop.sides = []) ↔
      Stop.classes category (stops category) = [] := fun category => Stop.classes_eq_nil_iff.symm
  simp only [hsides]
  constructor
  · intro hnone category
    simp only [markedClasses, List.append_eq_nil_iff] at hnone
    cases category with
    | gap => exact hnone.1.1.2
    | padding => exact hnone.1.2
    | margin => exact hnone.2
  · intro hnone
    simp [markedClasses, hnone]

/-- The marker of an element stands in front of its classes, if there are any. -/
theorem spacingClasses_eq (attributes : Value.Entries) (order : Value) :
    spacingClasses attributes order = (StyleCategory.order.mapM fun category =>
      responsiveClassesOfValue category (attributes.get category.name) order) >>= fun classes =>
        pure (if classes.flatten = [] then [] else spacingMarker :: classes.flatten) := by
  unfold spacingClasses
  congr 1
  funext classes
  cases classes.flatten <;> rfl

/-- The classes of an element as one text: behind a marker, if there are any. -/
def elementText (stops : StyleCategory → List Stop) : String :=
  joinClasses (if markedClasses stops = [] then [] else spacingMarker :: markedClasses stops)

/-- The classes of an element are those of its stops, and the malformed ones are noted. -/
theorem finds_compileSpacing {attributes : Value.Entries} {order : Option (List String)}
    {stops : StyleCategory → List Stop}
    (harranged : ∀ category : StyleCategory,
      Arranged (orderData order) (attributes.get category.name) (stops category))
    (hvalues : ∀ category : StyleCategory, (attributes.get category.name).IsResponsive) :
    (compileSpacing (.map attributes) (orderData order)).Finds (elementText stops)
      (StyleCategory.order.flatMap fun category => Stop.malformed (stops category)) := by
  have hcategories := @Noted.Finds.mapM _ _ _ _ _ StyleCategory.order fun category _ =>
    (harranged category).finds (hvalues category) category
  rw [compileSpacing_map, spacingClasses_eq, elementText, ← flatten_withMarker]
  exact (hcategories.map_result _).map_result joinClasses

/-- The sides of a stop come in their order. -/
theorem Stop.sublist_order (stop : Stop) (hrange : ¬stop.raw.HoldsEndless) :
    (stop.sides.map (·.1)).Sublist Side.order :=
  (sublist_of_normalize (normalize_of_denotes hrange stop.denotes)).1

/-- What comes of the stops of an element's responsive values. -/
theorem isCompiled_of_arranged {attributes : Value.Entries} {order : Option (List String)}
    {stops : StyleCategory → List Stop}
    (harranged : ∀ category : StyleCategory,
      Arranged (orderData order) (attributes.get category.name) (stops category))
    (hvalues : ∀ category : StyleCategory, (attributes.get category.name).IsResponsive) :
    IsCompiled stops (compileSpacing (.map attributes) (orderData order)) := by
  have hfinds := finds_compileSpacing harranged hvalues
  constructor
  case blank =>
    intro hnone
    rw [hfinds.outcome, elementText, if_pos (markedClasses_eq_nil_iff.mpr hnone)]
    rfl
  case text =>
    rintro ⟨category, stop, hstop, hsides⟩
    have hsome : markedClasses stops ≠ [] := fun hnone =>
      hsides (markedClasses_eq_nil_iff.mp hnone category stop hstop)
    rw [hfinds.outcome, elementText, if_neg hsome]
    rfl
  case ordered =>
    intro category stop hstop
    exact stop.sublist_order ((harranged category).not_holdsEndless (hvalues category) hstop)
  case unmarked => exact fun category name hname => Stop.ne_marker_of_mem_classes hname
  case notes =>
    rw [hfinds.notes]
    simp [StyleCategory.order]

/-- The attributes that are categories are found in any order and among any others. -/
theorem get_eq_of_perm_append {attributes attributes' others : Value.Entries}
    (hperm : attributes'.Perm (others ++ attributes)) (hnodup : (attributes'.map (·.1)).Nodup)
    {name : String} (hothers : ∀ entry ∈ others, entry.1 ≠ .str name) :
    attributes'.get name = attributes.get name := by
  have hfewer : (attributes.map (·.1)).Nodup :=
    ((hperm.map _).nodup_iff.mp hnodup).sublist ((List.sublist_append_right _ _).map _)
  have hfound : attributes'.get? name = attributes.get? name := by
    ext raw
    rw [Value.Entries.get?, Value.Entries.get?, Value.Entries.find?_eq_some_iff_mem hnodup,
      Value.Entries.find?_eq_some_iff_mem hfewer, hperm.mem_iff, List.mem_append]
    exact or_iff_right fun hother => hothers _ hother rfl
  rw [Value.Entries.get, Value.Entries.get, hfound]

/-- The classes of an element are those of its gap, padding and margin, one for each breakpoint in
the order asked for and each side that has a value there, behind a marker for the gap's classes
and, in front of all, one for the element. Malformed entries are noted in the same order, each once.
Neither other attributes and the order of attributes nor malformed and empty entries change the
classes. -/
theorem compileSpacing_isCompiled (attributes : Value.Entries) (order : Option (List String))
    (hvalues : ∀ category : StyleCategory, (attributes.get category.name).IsResponsive) :
    (∃ stops : StyleCategory → List Stop, ∀ category,
      Arranged (orderData order) (attributes.get category.name) (stops category)) ∧
    (∀ stops : StyleCategory → List Stop,
      (∀ category, Arranged (orderData order) (attributes.get category.name) (stops category)) →
      IsCompiled stops (compileSpacing (.map attributes) (orderData order))) ∧
    (∀ others attributes' : Value.Entries, attributes'.Perm (others ++ attributes) →
      (attributes'.map (·.1)).Nodup →
      (∀ entry ∈ others, ∀ category : StyleCategory, entry.1 ≠ .str category.name) →
      compileSpacing (.map attributes') (orderData order) =
        compileSpacing (.map attributes) (orderData order)) ∧
    ∀ attributes' : Value.Entries,
      (∀ category : StyleCategory,
        Thinned (attributes.get category.name) (attributes'.get category.name)) →
      (compileSpacing (.map attributes') (orderData order)).outcome =
        (compileSpacing (.map attributes) (orderData order)).outcome := by
  have hstops := fun category => (hvalues category).exists_arranged order
  choose stops harranged using hstops
  refine ⟨⟨stops, harranged⟩, fun stops harranged => isCompiled_of_arranged harranged hvalues,
    fun others attributes' hperm hnodup hothers => ?_, fun attributes' hthinned => ?_⟩
  · refine compileSpacing_congr _ fun category => ?_
    exact get_eq_of_perm_append hperm hnodup fun entry hentry => hothers entry hentry category
  · have hthin := fun category =>
      (hthinned category).exists_arranged (harranged category) (hvalues category)
    choose hvalues' stops' harranged' hclasses using hthin
    have hmarked : markedClasses stops' = markedClasses stops := by
      rw [markedClasses, markedClasses, hclasses .gap, hclasses .padding, hclasses .margin]
    rw [(finds_compileSpacing harranged' hvalues').outcome,
      (finds_compileSpacing harranged hvalues).outcome, elementText, elementText, hmarked]

/-- A padding of two sides. -/
def cornerPadding : Value.Entries :=
  [(.str "left", .str "1"), (.str "type", .str "sides"), (.str "top", .str "2")]

/-- The padding of a card; the entry at the base is empty. -/
def cardPadding : Value.Entries := [(.str "md", .map cornerPadding), (.str "base", .str "")]

/-- The gap of a card; the entry at the base is malformed. -/
def cardGap : Value.Entries := [(.str "md", .str "4"), (.str "base", .bool true)]

/-- A card with padding and gap, and no margin. -/
def cardAttributes : Value.Entries :=
  [(.str "padding", .map cardPadding), (.str "gap", .map cardGap)]

/-- An entry at another breakpoint than the base. -/
def awayFromBase (entry : Scalar × Value) : Bool := !entry.1.sameKey (.str "base")

/-- The card without the entries at the base. -/
def thinnedCard : Value.Entries :=
  [(.str "padding", .map (cardPadding.filter awayFromBase)),
    (.str "gap", .map (cardGap.filter awayFromBase))]

theorem isResponsive_cardAttributes (category : StyleCategory) :
    (cardAttributes.get category.name).IsResponsive := by
  cases category with
  | gap => exact @Value.isResponsive_map cardGap ["md", "base"] rfl (by decide) ⟨_, rfl⟩
  | padding => exact @Value.isResponsive_map cardPadding ["md", "base"] rfl (by decide) ⟨_, rfl⟩
  | margin => exact ⟨by rintro _ ⟨⟩, by rintro _ ⟨⟩, by rintro ⟨_, ⟨⟩, -⟩⟩

theorem speaksOf_cornerPadding : SpeaksOf cornerPadding
    [(.top, .str "2"), (.right, .null), (.bottom, .null), (.left, .str "1")] := .sides rfl

theorem denotes_cornerPadding :
    Denotes (.map cornerPadding) (some [(.top, "2"), (.left, "1")]) := by
  refine .entry speaksOf_cornerPadding ?_
  simp only [List.forall_mem_cons]
  exact ⟨.text _, .null, .null, .text _, by simp⟩

/-- The stops of the card, the base first. -/
def cardStops : StyleCategory → List Stop
  | .gap => [⟨"base", _, _, .true⟩, ⟨"md", _, _, .text (s := "4") (by decide)⟩]
  | .padding => [⟨"base", _, _, .noText⟩, ⟨"md", _, _, denotes_cornerPadding⟩]
  | .margin => []

theorem arranged_cardStops (category : StyleCategory) :
    Arranged (orderData (some ["base"])) (cardAttributes.get category.name)
      (cardStops category) := by
  cases category with
  | gap => exact .map (.swap _ _ _) rfl
  | padding => exact .map (.swap _ _ _) rfl
  | margin => exact .other (by rintro _ ⟨⟩)

theorem thinned_cardAttributes (category : StyleCategory) :
    Thinned (cardAttributes.get category.name) (thinnedCard.get category.name) := by
  cases category with
  | gap =>
    refine .entries awayFromBase ?_
    simp only [cardGap, List.forall_mem_cons]
    exact ⟨by rintro ⟨⟩, fun _ => .inl .true, by simp⟩
  | padding =>
    refine .entries awayFromBase ?_
    simp only [cardPadding, List.forall_mem_cons]
    exact ⟨by rintro ⟨⟩, fun _ => .inr .noText, by simp⟩
  | margin => exact .same _

/-- The card has a class for its gap and two for its padding, with both markers; the malformed entry
is noted, and without the entries at the base, or with a title, it has the same classes. -/
theorem compileSpacing_isCompiled_card :
    (∀ category : StyleCategory, (cardAttributes.get category.name).IsResponsive) ∧
      (compileSpacing (.map cardAttributes) (orderData (some ["base"]))).outcome =
        .ok "has-spacing has-gap md:gap-4 md:pt-2 md:pl-1" ∧
      (compileSpacing (.map cardAttributes) (orderData (some ["base"]))).notes.map (·.raw) =
        [.bool true] ∧
      compileSpacing (.map ((.str "title", .str "Card") :: cardAttributes.reverse))
        (orderData (some ["base"])) =
          compileSpacing (.map cardAttributes) (orderData (some ["base"])) ∧
      (compileSpacing (.map thinnedCard) (orderData (some ["base"]))).outcome =
        .ok "has-spacing has-gap md:gap-4 md:pt-2 md:pl-1" := by
  obtain ⟨-, hcompiled, hothers, hthinned⟩ :=
    compileSpacing_isCompiled cardAttributes (some ["base"]) isResponsive_cardAttributes
  have hcard := hcompiled cardStops arranged_cardStops
  have htext := hcard.text ⟨.gap, _, List.mem_cons_of_mem _ List.mem_cons_self, by simp [Stop.sides]⟩
  refine ⟨isResponsive_cardAttributes, htext.trans rfl, hcard.notes.trans rfl, ?_, ?_⟩
  · refine hothers [(.str "title", .str "Card")] _ ?_ (by decide) ?_
    · exact (List.reverse_perm _).cons _
    · intro entry hentry category
      obtain rfl := List.mem_singleton.mp hentry
      cases category <;> decide
  · exact (hthinned thinnedCard thinned_cardAttributes).trans (htext.trans rfl)

end StyleTokens
