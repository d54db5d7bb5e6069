import Mathlib.Tactic.SplitIfs
import StyleTokens.Text.Markup

/-!
# Text without markup

Text from which the markup characters were removed holds none of them, and neither does text that
was written as the value of an attribute. A reader who resolves the references in an attribute gets
back the text that it was written from.
-/

namespace StyleTokens.Text

/-- No markup character stands in a text. -/
def NoMarkup (text : List Char) : Prop := ∀ c ∈ text, isMarkup c = false

@[simp] theorem noMarkup_nil : NoMarkup [] := by simp [NoMarkup]

@[simp] theorem noMarkup_cons {c : Char} {text : List Char} :
    NoMarkup (c :: text) ↔ isMarkup c = false ∧ NoMarkup text := by simp [NoMarkup]

@[simp] theorem noMarkup_append {left right : List Char} :
    NoMarkup (left ++ right) ↔ NoMarkup left ∧ NoMarkup right := by
  simp [NoMarkup, or_imp, forall_and]

/-- A text has no markup exactly if none of the four markup characters stands in it. -/
theorem noMarkup_iff {text : List Char} :
    NoMarkup text ↔ '<' ∉ text ∧ '>' ∉ text ∧ '"' ∉ text ∧ '\'' ∉ text := by
  constructor
  · intro h
    refine ⟨?_, ?_, ?_, ?_⟩ <;> intro hmem <;> simpa [isMarkup] using h _ hmem
  · rintro ⟨hless, hgreater, hdouble, hsingle⟩ c hc
    have hne (d : Char) (hd : d ∉ text) : c ≠ d := fun heq => hd (heq ▸ hc)
    simp [isMarkup, hne _ hless, hne _ hgreater, hne _ hdouble, hne _ hsingle]

/-- Characters of a text without markup form a text without markup. -/
theorem NoMarkup.subset {text part : List Char} (h : NoMarkup text) (hpart : part ⊆ text) :
    NoMarkup part :=
  fun c hc => h c (hpart hc)

/-- A text without markup holds a markup character no times. -/
theorem NoMarkup.count_eq_zero {text : List Char} (h : NoMarkup text) {c : Char}
    (hc : isMarkup c = true) : text.count c = 0 := by
  refine List.count_eq_zero.mpr fun hmem => ?_
  simp [h c hmem] at hc

/-- What is left of a text without its markup characters has no markup. -/
@[simp] theorem noMarkup_stripMarkup (text : List Char) : NoMarkup (stripMarkup text) := by
  intro c hc
  simpa using (List.mem_filter.mp hc).2

/-- Texts without markup, joined by one, have no markup. -/
theorem noMarkup_intercalate {separator : String} {texts : List String}
    (hseparator : NoMarkup separator.toList) (htexts : ∀ text ∈ texts, NoMarkup text.toList) :
    NoMarkup (separator.intercalate texts).toList := by
  induction texts with
  | nil => simp
  | cons text texts ih =>
    have hrest := ih fun other hother => htexts other (by simp [hother])
    cases texts with
    | nil => simpa using htexts text (by simp)
    | cons next texts =>
      rw [String.intercalate_cons_cons, String.toList_append, String.toList_append]
      exact noMarkup_append.mpr ⟨noMarkup_append.mpr ⟨htexts text (by simp), hseparator⟩, hrest⟩

/-- Attribute text as it is read: every reference that stands for one of the five characters with
a reference of its own is resolved, and all else is kept. -/
def resolveReferences : List Char → List Char
  | '&' :: 'a' :: 'm' :: 'p' :: ';' :: rest => '&' :: resolveReferences rest
  | '&' :: 'l' :: 't' :: ';' :: rest => '<' :: resolveReferences rest
  | '&' :: 'g' :: 't' :: ';' :: rest => '>' :: resolveReferences rest
  | '&' :: 'q' :: 'u' :: 'o' :: 't' :: ';' :: rest => '"' :: resolveReferences rest
  | '&' :: '#' :: 'x' :: '2' :: '7' :: ';' :: rest => '\'' :: resolveReferences rest
  | c :: rest => c :: resolveReferences rest
  | [] => []

/-- A character that is written into an attribute is read back from the front of it. -/
private theorem resolveReferences_attributeChar (c : Char) (rest : List Char) :
    resolveReferences (attributeChar c ++ rest) = c :: resolveReferences rest := by
  unfold attributeChar
  split_ifs with hamp hless hgreater hdouble hsingle
  · subst hamp; simp [resolveReferences]
  · subst hless; simp [resolveReferences]
  · subst hgreater; simp [resolveReferences]
  · subst hdouble; simp [resolveReferences]
  · subst hsingle; simp [resolveReferences]
  · simp [resolveReferences, hamp]

/-- Reading attribute text gives back the text that was written. -/
theorem resolveReferences_attributeText (text : List Char) :
    resolveReferences (attributeText text) = text := by
  induction text with
  | nil => rfl
  | cons c text ih =>
    rw [attributeText, List.flatMap_cons, ← attributeText, resolveReferences_attributeChar, ih]

private theorem noMarkup_attributeChar (c : Char) : NoMarkup (attributeChar c) := by
  unfold attributeChar
  split_ifs with hamp hless hgreater hdouble hsingle
  all_goals simp [isMarkup, *]

/-- Attribute text holds no markup character. -/
theorem noMarkup_attributeText (text : List Char) : NoMarkup (attributeText text) := by
  intro c hc
  obtain ⟨d, _, hd⟩ := List.mem_flatMap.mp hc
  exact noMarkup_attributeChar d c hd

end StyleTokens.Text
