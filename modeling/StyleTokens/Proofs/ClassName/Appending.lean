import StyleTokens.Proofs.ClassName.Words
import StyleTokens.Proofs.Value.Entries
import StyleTokens.Render.Page

/-!
# Classes behind other classes

An attribute is a text, and what is appended to it is text, too; but it is read as its words. The
space between the two keeps the last word of the one from the first word of the other, and what is
trimmed at the ends is no word. So the words of the result are the words of both parts, in order and
as often as they stand there, whatever white space the parts have.
-/

namespace StyleTokens

open Text

/-! ### Words -/

theorem classTokens_empty : classTokens "" = [] := rfl

/-- The words of an attribute with further classes are its own words and then theirs. -/
theorem classTokens_appendClasses (existing addition : String) :
    classTokens (appendClasses existing addition) =
      classTokens existing ++ classTokens addition := by
  have hblank : isBlank ' ' = true := by decide
  have hchars : (existing ++ " " ++ addition).toList =
      existing.toList ++ ' ' :: addition.toList := by
    simp [String.toList_append]
  rw [classTokens, appendClasses, String.toList_ofList, words_trim, hchars,
    words_append_cons hblank, List.map_append]
  rfl

theorem trimmed_appendClasses (existing addition : String) :
    Trimmed (appendClasses existing addition).toList := by
  rw [appendClasses, String.toList_ofList]
  exact trimmed_trim _

/-- Classes that are empty have no words, so it makes no difference that they are left out. -/
theorem flatMap_classTokens_filter (classes : List String) :
    (classes.filter fun name => !name.isEmpty).flatMap classTokens =
      classes.flatMap classTokens := by
  induction classes with
  | nil => rfl
  | cons name classes ih =>
    by_cases hempty : name = ""
    · subst hempty
      simpa [classTokens_empty] using ih
    · simp [hempty, ih]

/-! ### Attributes -/

/-- What has to come of some classes behind an attribute that an element has or has not. -/
structure IsAppended (existing : Option String) (classes : List String) (text : String) :
    Prop where
  /-- The words are those of the attribute and then those of the classes, one after the other. -/
  tokens : classTokens text = classTokens (existing.getD "") ++ classes.flatMap classTokens
  /-- There is no white space at either end. -/
  trimmed : Trimmed text.toList

/-- The classes of a list as the text that is appended. -/
theorem additionOfValue_list (classes : List String) :
    additionOfValue (.list (classes.map .str)) =
      .ok (joinClasses (classes.filter fun name => !name.isEmpty)) := by
  have hitems : (classes.map Value.str).filter Value.truthy =
      (classes.filter fun name => !name.isEmpty).map .str := List.filter_map
  change (textItems 0 ((classes.map Value.str).filter Value.truthy) >>= fun texts =>
    pure (joinClasses texts)) = _
  rw [hitems, textItems_map_str]
  rfl

theorem attributeOfValue_optional (existing : Option String) :
    attributeOfValue (.optional existing) = existing.getD "" := by
  cases existing with
  | none => rfl
  | some text =>
    by_cases hempty : text = ""
    · subst hempty
      rfl
    · simp [attributeOfValue, Value.optional, Value.truthy, Scalar.truthy, Value.display,
        Scalar.display, hempty]

/-- A list of classes is appended. -/
theorem isAppended_list (existing : Option String) (classes : List String) :
    ∃ text, appendClassesOfValues (.optional existing) (.list (classes.map .str)) = .ok text ∧
      IsAppended existing classes text := by
  refine ⟨appendClasses (existing.getD "")
    (joinClasses (classes.filter fun name => !name.isEmpty)), ?_, ?_, trimmed_appendClasses _ _⟩
  · rw [appendClassesOfValues, additionOfValue_list, attributeOfValue_optional]
    rfl
  · rw [classTokens_appendClasses, classTokens_joinClasses, flatMap_classTokens_filter]

/-- The classes of an element are appended, if its attributes have any to give. -/
theorem isAppended_classAttribute (existing : Option String) {context : RenderContext}
    {attributes : Value} {classes : String}
    (h : (context.classesFor attributes).outcome = .ok classes) :
    ∃ text, (context.classAttribute (.optional existing) attributes).outcome = .ok text ∧
      IsAppended existing [classes] text := by
  refine ⟨appendClasses (existing.getD "") classes, ?_, ?_, trimmed_appendClasses _ _⟩
  · rw [RenderContext.classAttribute, Noted.outcome_bind, h, attributeOfValue_optional]
    rfl
  · rw [classTokens_appendClasses, List.flatMap_singleton]

/-- Appending classes is appending words: the words of the result are those of the attribute
followed by those of the classes, none of them lost, merged, moved or left out for being there
twice, and there is no white space at the ends. This holds for a list of classes and for the
classes that an element's attributes give. To append two lists one after the other gives the words
that their concatenation gives. -/
theorem appending_concatenates_tokens (existing : Option String) :
    (∀ classes : List String, ∃ text,
      appendClassesOfValues (.optional existing) (.list (classes.map .str)) = .ok text ∧
        IsAppended existing classes text) ∧
    (∀ (context : RenderContext) (attributes : Value) (classes : String),
      (context.classesFor attributes).outcome = .ok classes →
      ∃ text, (context.classAttribute (.optional existing) attributes).outcome = .ok text ∧
        IsAppended existing [classes] text) ∧
    ∀ first second : List String, ∃ once twice together,
      appendClassesOfValues (.optional existing) (.list (first.map .str)) = .ok once ∧
      appendClassesOfValues (.str once) (.list (second.map .str)) = .ok twice ∧
      appendClassesOfValues (.optional existing) (.list ((first ++ second).map .str)) =
        .ok together ∧
      classTokens twice = classTokens together := by
  refine ⟨isAppended_list existing, fun _ _ _ => isAppended_classAttribute existing,
    fun first second => ?_⟩
  obtain ⟨once, honce, hfirst⟩ := isAppended_list existing first
  obtain ⟨twice, htwice, hsecond⟩ := isAppended_list (some once) second
  obtain ⟨together, htogether, hboth⟩ := isAppended_list existing (first ++ second)
  refine ⟨once, twice, together, honce, htwice, htogether, ?_⟩
  rw [hsecond.tokens, hboth.tokens, Option.getD_some, hfirst.tokens, List.flatMap_append,
    List.append_assoc]

/-- A context without presets, in which an element without attributes has no spacing. -/
def bareContext : RenderContext :=
  ⟨.empty .missing none none, [], none, .standard, [], []⟩

/-- An attribute with white space of other kinds at its ends and inside. -/
def looseAttribute : String := "\u2003wide\u00a0wp-block wide\x1c"

/-- The words of that attribute stand in front of the classes of a card, the repeated one twice. -/
theorem appending_concatenates_tokens_card :
    (bareContext.classesFor (.map cardAttributes)).outcome =
        .ok "has-spacing has-gap md:gap-4 md:pt-2 md:pl-1" ∧
      ∃ text, (bareContext.classAttribute (.str looseAttribute) (.map cardAttributes)).outcome =
          .ok text ∧
        classTokens text = ["wide", "wp-block", "wide", "has-spacing", "has-gap", "md:gap-4",
          "md:pt-2", "md:pl-1"] := by
  have hclasses : (bareContext.classesFor (.map cardAttributes)).outcome =
      .ok "has-spacing has-gap md:gap-4 md:pt-2 md:pl-1" := by decide
  obtain ⟨text, htext, happended⟩ :=
    (appending_concatenates_tokens (some looseAttribute)).2.1 _ _ _ hclasses
  exact ⟨hclasses, text, htext, happended.tokens.trans (by decide)⟩

end StyleTokens
