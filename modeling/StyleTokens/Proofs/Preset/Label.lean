import StyleTokens.Preset.Label
import StyleTokens.Proofs.Outcome
import StyleTokens.Proofs.Text.Case
import StyleTokens.Proofs.Text.Words

/-!
# Labels made from ids

The label made from an id that is not empty is not empty: a separator leaves a space, and a capital
letter takes the place of a small one. None can be made if the id has a weight with more digits than
a whole number may have.
-/

namespace StyleTokens

open Text

/-- A character has an upper-case image. -/
theorem upperChar_ne_nil (c : Char) : upperChar c ≠ [] := by
  have hexpansions : ∀ pair ∈ upperExpansions, pair.2 ≠ [] := by decide +kernel
  unfold upperChar
  split_ifs
  · exact List.cons_ne_nil _ _
  · unfold caseImage
    cases hexpansion : upperExpansions.lookup c.toNat with
    | some codes =>
      simpa using hexpansions _ (mem_of_lookup_eq_some hexpansion)
    | none => cases upperRuns.find? (·.contains c.toNat) <;> exact List.cons_ne_nil _ _

/-- A text keeps its length or grows when it gets a capital letter. -/
theorem upperFirst_ne_nil {text : List Char} (h : text ≠ []) : upperFirst text ≠ [] := by
  cases text with
  | nil => exact absurd rfl h
  | cons c rest => exact List.append_ne_nil_of_left_ne_nil (upperChar_ne_nil c) rest

/-- Parts of a text make a title that is not empty. -/
theorem titled_ne_nil (separator : Char → Bool) {text : List Char} (h : text ≠ []) :
    titled (splitWhere separator text) ≠ [] := by
  unfold titled
  rcases splitWhere_cases separator h with ⟨part, hparts, hpart⟩ | ⟨first, second, rest, hparts⟩
  · simpa [hparts, List.intercalate] using upperFirst_ne_nil hpart
  · simp [hparts, List.intercalate]

/-- The label made from an id that is not empty is not empty. -/
theorem ne_nil_of_labelOfId {id label : List Char} (hid : id ≠ []) (h : labelOfId id = .ok label) :
    label ≠ [] := by
  unfold labelOfId at h
  split at h
  · split_ifs at h
    · obtain ⟨last, -, rfl⟩ := map_eq_ok_iff.mp h
      simp
    · rw [← Except.ok.inj h]
      exact titled_ne_nil _ hid
  · rw [← Except.ok.inj h]
    exact titled_ne_nil _ hid

/-- The label made from an id that is not empty is not empty. -/
theorem ne_empty_of_derivedLabel {id label : String} (hid : id ≠ "")
    (h : derivedLabel id = .ok label) : label ≠ "" := by
  obtain ⟨text, htext, rfl⟩ := map_eq_ok_iff.mp h
  have hne := ne_nil_of_labelOfId (by simpa using hid) htext
  simpa using hne

/-! ### Labels that cannot be made -/

/-- An id is read as family, size and weight, and the weight has more digits than can be read. -/
def HasLongWeight (id : List Char) : Prop :=
  ∃ family size weight, id = family ++ '-' :: (size ++ '-' :: weight) ∧ '-' ∉ family ∧
    isNumeral size = true ∧ isNumeral weight = true ∧ digitLimit < weight.length

/-- A numeral has no hyphen. -/
theorem hyphen_notMem_of_isNumeral {text : List Char} (h : isNumeral text = true) :
    '-' ∉ text := by
  intro hmem
  unfold isNumeral at h
  rw [Bool.and_eq_true, List.all_eq_true] at h
  exact absurd (h.2 _ hmem) (by decide)

/-- The parts of an id are three exactly if it is these with hyphens between them. -/
theorem splitWhere_hyphen_eq_iff {id family size weight : List Char} :
    splitWhere (· == '-') id = [family, size, weight] ↔
      id = family ++ '-' :: (size ++ '-' :: weight) ∧
        '-' ∉ family ∧ '-' ∉ size ∧ '-' ∉ weight := by
  have hfree : ∀ text : List Char, (∀ c ∈ text, (c == '-') = false) ↔ '-' ∉ text := by
    intro text
    simp only [beq_eq_false_iff_ne, ne_eq]
    exact ⟨fun h hmem => h _ hmem rfl, fun h c hc heq => h (heq ▸ hc)⟩
  constructor
  · intro h
    obtain ⟨hfamily, ⟨-, ⟨⟩⟩ | ⟨c, rest, rfl, hc, hrest⟩⟩ := splitWhere_eq_cons h
    obtain ⟨hsize, ⟨-, ⟨⟩⟩ | ⟨c', rest', rfl, hc', hrest'⟩⟩ := splitWhere_eq_cons hrest
    obtain ⟨hweight, ⟨rfl, -⟩ | ⟨-, rest'', -, -, hrest''⟩⟩ := splitWhere_eq_cons hrest'
    · rw [beq_iff_eq] at hc hc'
      subst hc hc'
      exact ⟨rfl, (hfree _).mp hfamily, (hfree _).mp hsize, (hfree _).mp hweight⟩
    · exact absurd hrest'' (splitWhere_ne_nil _ _)
  · rintro ⟨rfl, hfamily, hsize, hweight⟩
    rw [splitWhere_append_cons ((hfree _).mpr hfamily) rfl,
      splitWhere_append_cons ((hfree _).mpr hsize) rfl,
      splitWhere_of_forall ((hfree _).mpr hweight)]

/-- A label fails to be made from an id exactly if its weight has too many digits. -/
theorem labelOfId_fault_iff {id : List Char} :
    (∃ fault, labelOfId id = .error fault) ↔ HasLongWeight id := by
  constructor
  · rintro ⟨fault, h⟩
    unfold labelOfId at h
    split at h
    · rename_i family size weight hparts
      obtain ⟨rfl, hfamily, -, -⟩ := splitWhere_hyphen_eq_iff.mp hparts
      split_ifs at h with hsize
      have hlast : weightLabel weight = .error fault := map_eq_error_iff.mp h
      unfold weightLabel at hlast
      split_ifs at hlast with hweight
      have hnumeral : readNumeral weight = .error fault := map_eq_error_iff.mp hlast
      unfold readNumeral at hnumeral
      split_ifs at hnumeral with hlong
      exact ⟨family, size, weight, rfl, hfamily, hsize, hweight, hlong⟩
    · cases h
  · rintro ⟨family, size, weight, rfl, hfamily, hsize, hweight, hlong⟩
    have hparts : splitWhere (· == '-') (family ++ '-' :: (size ++ '-' :: weight)) =
        [family, size, weight] :=
      splitWhere_hyphen_eq_iff.mpr ⟨rfl, hfamily, hyphen_notMem_of_isNumeral hsize,
        hyphen_notMem_of_isNumeral hweight⟩
    refine ⟨.unconvertible (.tooManyDigits weight.length), ?_⟩
    unfold labelOfId
    rw [hparts]
    simp only [hsize, if_true]
    unfold fontLabel weightLabel readNumeral
    simp only [hweight, hlong, if_true]
    rfl

end StyleTokens
