import StyleTokens.Proofs.ClassName.Spacing
import StyleTokens.Proofs.Text.Words

/-!
# The words of a class attribute

Classes stand in an attribute as one text, and whoever reads it takes each of its words for a class.
Breakpoints and values come into class names as they are given. So the words are the classes exactly
as long as there is no white space in what is given; otherwise a value brings words of its own, and
one of them may be a marker.
-/

namespace StyleTokens

open Text

/-- The classes that the text of an attribute names: its words. -/
def classTokens (text : String) : List String := (words text.toList).map String.ofList

/-- A class without white space is the only word of its text. -/
theorem classTokens_of_noBlank {name : String} (h : NoBlank name.toList) (hne : name ≠ "") :
    classTokens name = [name] := by
  rw [classTokens, words_of_noBlank h (by simpa using hne), List.map_singleton,
    String.ofList_toList]

/-- A class that a text names has no white space. -/
theorem noBlank_of_mem_classTokens {text name : String} (h : name ∈ classTokens text) :
    NoBlank name.toList := by
  obtain ⟨word, hword, rfl⟩ := List.mem_map.mp h
  rw [String.toList_ofList]
  exact noBlank_of_mem_words hword

/-- The words of classes that stand in one text are the words of each, one class after the other. -/
theorem classTokens_joinClasses (classes : List String) :
    classTokens (joinClasses classes) = classes.flatMap classTokens := by
  unfold joinClasses
  induction classes with
  | nil => rfl
  | cons name classes ih =>
    cases classes with
    | nil => simp
    | cons next classes =>
      have hblank : isBlank ' ' = true := by decide
      have hchars : (" ".intercalate (name :: next :: classes)).toList =
          name.toList ++ ' ' :: (" ".intercalate (next :: classes)).toList := by
        rw [String.intercalate_cons_cons]
        simp [String.toList_append]
      rw [List.flatMap_cons, ← ih, classTokens, hchars, words_append_cons hblank, List.map_append]
      rfl

/-- The words of classes in one text are the classes exactly if none of them has white space. -/
theorem classTokens_joinClasses_eq_iff {classes : List String} (hne : ∀ name ∈ classes, name ≠ "") :
    classTokens (joinClasses classes) = classes ↔ ∀ name ∈ classes, NoBlank name.toList := by
  constructor
  · intro h name hname
    exact noBlank_of_mem_classTokens (h ▸ hname)
  · intro h
    have hsingle : ∀ name ∈ classes, classTokens name = [name] := fun name hname =>
      classTokens_of_noBlank (h name hname) (hne name hname)
    rw [classTokens_joinClasses, List.flatMap_congr hsingle, List.flatMap_singleton']

/-! ### Breakpoints and values -/

/-- There is no white space in the breakpoint of a stop and in its values. -/
structure Stop.IsUnbroken (stop : Stop) : Prop where
  /-- There is none in the breakpoint. -/
  slug : NoBlank stop.slug.toList
  /-- There is none in a value. -/
  values : ∀ side ∈ stop.sides, NoBlank side.2.toList

/-- There is no white space in a class name exactly if there is none in the breakpoint and the
value. -/
theorem noBlank_className_iff {category : StyleCategory} {slug : String} {side : Side}
    {value : String} :
    NoBlank (className category.stem slug side value).toList ↔
      NoBlank slug.toList ∧ NoBlank value.toList := by
  have hstem : NoBlank (classStem category side) := by
    cases category <;> cases side <;> decide
  have hqualifier : NoBlank (breakpointQualifier slug).toList ↔ NoBlank slug.toList := by
    unfold breakpointQualifier
    split_ifs with hbase
    · subst hbase
      decide
    · simp [String.toList_append, show isBlank ':' = false by decide]
  have hhyphen : isBlank '-' = false := by decide
  rw [toList_className, noBlank_append, noBlank_append, noBlank_cons, hqualifier]
  simp [hstem, hhyphen]

theorem className_ne_empty (category : StyleCategory) (slug : String) (side : Side)
    (value : String) : className category.stem slug side value ≠ "" := by
  intro hempty
  have hchars := congrArg String.toList hempty
  rw [toList_className] at hchars
  simp at hchars

namespace Stop

theorem ne_empty_of_mem_classes {category : StyleCategory} {stops : List Stop} {name : String}
    (h : name ∈ classes category stops) : name ≠ "" := by
  obtain ⟨stop, -, hname⟩ := List.mem_flatMap.mp h
  obtain ⟨⟨side, value⟩, -, rfl⟩ := List.mem_map.mp hname
  exact className_ne_empty category stop.slug side value

/-- There is no white space in the classes of some stops exactly if there is none in the breakpoints
and values that they are made of. -/
theorem noBlank_classes_iff {category : StyleCategory} {stops : List Stop} :
    (∀ name ∈ classes category stops, NoBlank name.toList) ↔
      ∀ stop ∈ stops, stop.sides ≠ [] → stop.IsUnbroken := by
  constructor
  · intro h stop hstop hsides
    have hparts : ∀ side ∈ stop.sides, NoBlank stop.slug.toList ∧ NoBlank side.2.toList := by
      intro side hside
      refine noBlank_className_iff.mp (h (className category.stem stop.slug side.1 side.2) ?_)
      exact List.mem_flatMap.mpr ⟨stop, hstop, List.mem_map.mpr ⟨side, hside, rfl⟩⟩
    obtain ⟨side, hside⟩ := List.exists_mem_of_ne_nil _ hsides
    exact ⟨(hparts side hside).1, fun side hside => (hparts side hside).2⟩
  · intro h name hname
    obtain ⟨stop, hstop, hname⟩ := List.mem_flatMap.mp hname
    obtain ⟨side, hside, rfl⟩ := List.mem_map.mp hname
    have hunbroken := h stop hstop (List.ne_nil_of_mem hside)
    exact noBlank_className_iff.mpr ⟨hunbroken.slug, hunbroken.values side hside⟩

end Stop

/-- What the text of a class attribute says of the classes of some stops. -/
structure IsWorded (category : StyleCategory) (stops : List Stop) (classes : List String) :
    Prop where
  /-- Its words are those of the classes, one class after the other. -/
  words : classTokens (joinClasses classes) = classes.flatMap classTokens
  /-- They are the classes themselves exactly if no breakpoint and no value that comes into a class
  has white space. -/
  exact_iff : classTokens (joinClasses classes) = classes ↔
    ∀ stop ∈ stops, stop.sides ≠ [] → stop.IsUnbroken
  /-- Where a gap is set, its marker is one of the words just once exactly if no class brings it as
  a word of its own. -/
  marker_iff : category = .gap → (∃ stop ∈ stops, stop.sides ≠ []) →
    ((classTokens (joinClasses classes)).count "has-gap" = 1 ↔
      ∀ name ∈ Stop.classes .gap stops, "has-gap" ∉ classTokens name)
  /-- Where nothing is set, there are no words. -/
  blank : (∀ stop ∈ stops, stop.sides = []) → classTokens (joinClasses classes) = []

/-- Classes behind a marker have no white space exactly if the classes have none. -/
theorem noBlank_withMarker_iff {category : StyleCategory} {classes : List String} :
    (∀ name ∈ withMarker category classes, NoBlank name.toList) ↔
      ∀ name ∈ classes, NoBlank name.toList := by
  have hmarker : ∀ name ∈ category.marker?.toList, NoBlank name.toList := by
    cases category <;> decide
  rw [withMarker_eq, List.forall_mem_append]
  refine and_iff_right fun name hname => ?_
  split_ifs at hname
  · cases hname
  · exact hmarker name hname

theorem ne_empty_of_mem_withMarker {category : StyleCategory} {stops : List Stop} {name : String}
    (h : name ∈ withMarker category (Stop.classes category stops)) : name ≠ "" := by
  have hmarker : ∀ name ∈ category.marker?.toList, name ≠ "" := by
    cases category <;> decide
  rw [withMarker_eq, List.mem_append] at h
  rcases h with hname | hname
  · split_ifs at hname
    · cases hname
    · exact hmarker name hname
  · exact Stop.ne_empty_of_mem_classes hname

/-- What an attribute with the classes of some stops says of them. -/
theorem isWorded_withMarker (category : StyleCategory) (stops : List Stop) :
    IsWorded category stops (withMarker category (Stop.classes category stops)) := by
  constructor
  case words => exact classTokens_joinClasses _
  case exact_iff =>
    rw [classTokens_joinClasses_eq_iff fun name => ne_empty_of_mem_withMarker,
      noBlank_withMarker_iff, Stop.noBlank_classes_iff]
  case marker_iff =>
    rintro rfl ⟨stop, hstop, hsides⟩
    have hsome : Stop.classes .gap stops ≠ [] := fun hnone =>
      hsides (Stop.classes_eq_nil_iff.mp hnone stop hstop)
    have hwords : classTokens (joinClasses (withMarker .gap (Stop.classes .gap stops))) =
        "has-gap" :: (Stop.classes .gap stops).flatMap classTokens := by
      rw [classTokens_joinClasses, withMarker_eq, if_neg hsome, List.flatMap_append]
      rfl
    rw [hwords, List.count_cons_self, Nat.add_eq_right, List.count_eq_zero]
    simp
  case blank =>
    intro hnone
    rw [Stop.classes_eq_nil_iff.mpr hnone, withMarker_nil]
    rfl

/-- The words of a class attribute are the classes of its responsive value exactly if there is no
white space in the breakpoints and values that come into them; a marker is one word as long as no
class brings another one. -/
theorem compileResponsive_isWorded (category : StyleCategory) (order : Option (List String))
    {value : Value} (hvalue : value.IsResponsive) :
    (∃ stops, Arranged (orderData order) value stops) ∧
    ∀ stops, Arranged (orderData order) value stops →
      ∃ classes, (compileResponsive (.str category.name) value (orderData order)).outcome =
          .ok classes ∧
        IsWorded category stops classes := by
  refine ⟨hvalue.exists_arranged order, fun stops harranged => ?_⟩
  exact ⟨_, (harranged.finds_compileResponsive hvalue category).outcome,
    isWorded_withMarker category stops⟩

/-- A gap whose value at the base is two words, the other one a marker. -/
def twoWordGap : Value.Entries := [(.str "md", .str "6"), (.str "base", .str "2 has-gap")]

theorem isResponsive_twoWordGap : (Value.map twoWordGap).IsResponsive :=
  @Value.isResponsive_map twoWordGap ["md", "base"] rfl (by decide) ⟨_, rfl⟩

theorem outcome_twoWordGap : (compileResponsive (.str "gap") (.map twoWordGap) .null).outcome =
    .ok ["has-gap", "md:gap-6", "gap-2 has-gap"] := rfl

/-- The stops of that gap. -/
def twoWordStops : List Stop :=
  [⟨"md", _, _, .text (s := "6") (by decide)⟩, ⟨"base", _, _, .text (s := "2 has-gap") (by decide)⟩]

/-- The text of that gap has four words for three classes, and two of the words are the marker. -/
theorem compileResponsive_isWorded_twoWordGap :
    (Value.map twoWordGap).IsResponsive ∧
      Arranged (orderData none) (.map twoWordGap) twoWordStops ∧
      ∃ classes, (compileResponsive (.str "gap") (.map twoWordGap) .null).outcome = .ok classes ∧
        classTokens (joinClasses classes) = ["has-gap", "md:gap-6", "gap-2", "has-gap"] ∧
        ¬∀ stop ∈ twoWordStops, stop.sides ≠ [] → stop.IsUnbroken := by
  have harranged : Arranged (orderData none) (.map twoWordGap) twoWordStops := .map (.refl _) rfl
  obtain ⟨classes, hclasses, hworded⟩ :=
    (compileResponsive_isWorded .gap none isResponsive_twoWordGap).2 twoWordStops harranged
  obtain rfl := Except.ok.inj (outcome_twoWordGap.symm.trans hclasses)
  exact ⟨isResponsive_twoWordGap, harranged, _, hclasses, by decide,
    fun hunbroken => absurd (hworded.exact_iff.mpr hunbroken) (by decide)⟩

/-- The words of an attribute are not always the classes, and a gap may bring its marker twice. -/
theorem not_compileResponsive_exact :
    (¬∀ (category : StyleCategory) (value : Value), value.IsResponsive →
      ∃ classes, (compileResponsive (.str category.name) value .null).outcome = .ok classes ∧
        classTokens (joinClasses classes) = classes) ∧
    ¬∀ value : Value, value.IsResponsive →
      ∃ classes, (compileResponsive (.str "gap") value .null).outcome = .ok classes ∧
        (classes ≠ [] → (classTokens (joinClasses classes)).count "has-gap" = 1) := by
  constructor
  · intro h
    obtain ⟨classes, hclasses, hexact⟩ := h .gap _ isResponsive_twoWordGap
    obtain rfl := Except.ok.inj (outcome_twoWordGap.symm.trans hclasses)
    exact absurd hexact (by decide)
  · intro h
    obtain ⟨classes, hclasses, honce⟩ := h _ isResponsive_twoWordGap
    obtain rfl := Except.ok.inj (outcome_twoWordGap.symm.trans hclasses)
    exact absurd (honce (by decide)) (by decide)

end StyleTokens
