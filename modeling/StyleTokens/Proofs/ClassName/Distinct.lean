import StyleTokens.ClassName.Basic
import Mathlib.Data.List.Basic

/-!
# Distinct class names

A colon ends the breakpoint of a class name, and the first hyphen behind it ends the category and
the side. So a class name of parts without colons tells all its parts.
-/

namespace StyleTokens

/-- Where a text is cut at the first place of a character, the text tells both parts. -/
theorem append_cons_inj_of_first {α : Type} {a : α} {front front' back back' : List α}
    (hfront : a ∉ front) (hfront' : a ∉ front')
    (h : front ++ a :: back = front' ++ a :: back') : front = front' ∧ back = back' := by
  induction front generalizing front' with
  | nil =>
    cases front' with
    | nil => simpa using h
    | cons b front' =>
      have hab : a = b := (List.cons.inj h).1
      exact absurd (by simp [hab]) hfront'
  | cons b front ih =>
    cases front' with
    | nil =>
      have hba : b = a := (List.cons.inj h).1
      exact absurd (by simp [hba]) hfront
    | cons b' front' =>
      obtain ⟨rfl, hrest⟩ := List.cons.inj h
      obtain ⟨rfl, hback⟩ := ih (fun hmem => hfront (List.mem_cons_of_mem _ hmem))
        (fun hmem => hfront' (List.mem_cons_of_mem _ hmem)) hrest
      exact ⟨rfl, hback⟩

/-- What stands between the breakpoint and the hyphen of a class name. -/
def classStem (category : StyleCategory) (side : Side) : List Char :=
  category.stem.toList ++ side.suffix.toList

/-- The stem tells the category and the side. -/
theorem classStem_inj {category category' : StyleCategory} {side side' : Side}
    (h : classStem category side = classStem category' side') :
    category = category' ∧ side = side' := by
  have hcategory : category = category' := by
    cases category <;> cases category' <;> simp [classStem, StyleCategory.stem] at h ⊢
  subst hcategory
  refine ⟨rfl, ?_⟩
  rw [classStem, classStem, List.append_cancel_left_eq] at h
  cases side <;> cases side' <;> simp [Side.suffix] at h ⊢

/-- There is no hyphen in a stem. -/
theorem hyphen_notMem_classStem (category : StyleCategory) (side : Side) :
    '-' ∉ classStem category side := by
  cases category <;> cases side <;> simp [classStem, StyleCategory.stem, Side.suffix]

/-- There is no colon in a stem. -/
theorem colon_notMem_classStem (category : StyleCategory) (side : Side) :
    ':' ∉ classStem category side := by
  cases category <;> cases side <;> simp [classStem, StyleCategory.stem, Side.suffix]

/-- There is no colon behind the breakpoint if there is none in the value. -/
theorem colon_notMem_classBody (category : StyleCategory) (side : Side) {value : String}
    (hvalue : ':' ∉ value.toList) :
    ':' ∉ classStem category side ++ '-' :: value.toList := by
  simp [colon_notMem_classStem, hvalue]

/-- What stands behind the breakpoint tells the category, the side and the value. -/
theorem classBody_inj {category category' : StyleCategory} {side side' : Side}
    {value value' : String}
    (h : classStem category side ++ '-' :: value.toList =
      classStem category' side' ++ '-' :: value'.toList) :
    category = category' ∧ side = side' ∧ value = value' := by
  obtain ⟨hstem, hvalues⟩ := append_cons_inj_of_first (hyphen_notMem_classStem category side)
    (hyphen_notMem_classStem category' side') h
  obtain ⟨rfl, rfl⟩ := classStem_inj hstem
  exact ⟨rfl, rfl, String.toList_injective hvalues⟩

/-- Where the rest has no colon, a breakpoint can be told from what it stands in front of. -/
theorem breakpointQualifier_append_inj {slug slug' : String} {rest rest' : List Char}
    (hslug : ':' ∉ slug.toList) (hslug' : ':' ∉ slug'.toList)
    (hrest : ':' ∉ rest) (hrest' : ':' ∉ rest')
    (h : (breakpointQualifier slug).toList ++ rest = (breakpointQualifier slug').toList ++ rest') :
    slug = slug' ∧ rest = rest' := by
  unfold breakpointQualifier at h
  split at h <;> split at h
  · next hbase hbase' => exact ⟨hbase.trans hbase'.symm, by simpa using h⟩
  · have heq : rest = slug'.toList ++ ':' :: rest' := by simpa [String.toList_append] using h
    exact absurd (by simp [heq]) hrest
  · have heq : slug.toList ++ ':' :: rest = rest' := by simpa [String.toList_append] using h
    exact absurd (by simp [← heq]) hrest'
  · simp only [String.toList_append, List.append_assoc, String.reduceToList, List.cons_append,
      List.nil_append] at h
    obtain ⟨hslugs, hrests⟩ := append_cons_inj_of_first hslug hslug' h
    exact ⟨String.toList_injective hslugs, hrests⟩

/-- The characters of a class name. -/
theorem toList_className (category : StyleCategory) (slug : String) (side : Side)
    (value : String) :
    (className category.stem slug side value).toList =
      (breakpointQualifier slug).toList ++ (classStem category side ++ '-' :: value.toList) := by
  unfold className classStem
  simp [String.toList_append]

/-- Two class names of parts without colons are equal only if all their parts are. -/
theorem className_inj {category category' : StyleCategory} {slug slug' : String}
    {side side' : Side} {value value' : String}
    (hslug : ':' ∉ slug.toList) (hslug' : ':' ∉ slug'.toList)
    (hvalue : ':' ∉ value.toList) (hvalue' : ':' ∉ value'.toList)
    (h : className category.stem slug side value = className category'.stem slug' side' value') :
    category = category' ∧ slug = slug' ∧ side = side' ∧ value = value' := by
  have hchars := congrArg String.toList h
  rw [toList_className, toList_className] at hchars
  obtain ⟨rfl, hparts⟩ := breakpointQualifier_append_inj hslug hslug'
    (colon_notMem_classBody category side hvalue) (colon_notMem_classBody category' side' hvalue')
    hchars
  obtain ⟨rfl, rfl, rfl⟩ := classBody_inj hparts
  exact ⟨rfl, rfl, rfl, rfl⟩

end StyleTokens
