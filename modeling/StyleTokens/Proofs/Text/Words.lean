import Mathlib.Data.List.DropRight
import Mathlib.Tactic.SplitIfs
import StyleTokens.Text.Blank
import StyleTokens.Text.Lines

/-!
# Parts and words of a text

A text is cut at its separators: there is one part more than there are separators, and no part has
one in it.

The words of a text are not empty and have no white space in them. Where white space stands between
two texts, their words follow each other, and a text without white space is its own only word. A
text that neither begins nor ends with white space is what trimming leaves of it with white space
around it. Trimming leaves such a text of every text, and takes no word away.
-/

namespace StyleTokens.Text

/-! ### Parts -/

section Parts

variable {α : Type} {separator : α → Bool}

/-- A text without separators is one part. -/
theorem splitWhere_of_forall {items : List α} (h : ∀ item ∈ items, separator item = false) :
    splitWhere separator items = [items] := by
  induction items with
  | nil => rfl
  | cons item rest ih =>
    rw [List.forall_mem_cons] at h
    simp [splitWhere, h.1, ih h.2]

/-- A text has at least one part. -/
theorem splitWhere_ne_nil (separator : α → Bool) (text : List α) :
    splitWhere separator text ≠ [] := by
  cases text with
  | nil => exact List.cons_ne_nil _ _
  | cons c rest =>
    unfold splitWhere
    split_ifs
    · exact List.cons_ne_nil _ _
    · cases splitWhere separator rest <;> exact List.cons_ne_nil _ _

/-- The parts of a text that is not empty are several, or one that is not empty. -/
theorem splitWhere_cases (separator : α → Bool) {text : List α} (h : text ≠ []) :
    (∃ part, splitWhere separator text = [part] ∧ part ≠ []) ∨
      ∃ first second rest, splitWhere separator text = first :: second :: rest := by
  cases text with
  | nil => exact absurd rfl h
  | cons c rest =>
    obtain ⟨part, parts, hparts⟩ := List.exists_cons_of_ne_nil (splitWhere_ne_nil separator rest)
    rw [splitWhere, hparts]
    split_ifs
    · exact Or.inr ⟨[], part, parts, rfl⟩
    · cases parts with
      | nil => exact Or.inl ⟨c :: part, rfl, List.cons_ne_nil _ _⟩
      | cons second parts => exact Or.inr ⟨c :: part, second, parts, rfl⟩

/-- The parts of a text are what stands before the first separator, and those of the rest. -/
theorem splitWhere_append_cons {first : List α} {c : α} (hfirst : ∀ c ∈ first, separator c = false)
    (hc : separator c = true) (rest : List α) :
    splitWhere separator (first ++ c :: rest) = first :: splitWhere separator rest := by
  induction first with
  | nil => simp [splitWhere, hc]
  | cons item first ih =>
    rw [List.forall_mem_cons] at hfirst
    simp [splitWhere, hfirst.1, ih hfirst.2]

/-- The first part of a text has no separator; it is all of the text, or has one behind it. -/
theorem splitWhere_eq_cons {text first : List α} {parts : List (List α)}
    (h : splitWhere separator text = first :: parts) :
    (∀ c ∈ first, separator c = false) ∧
      (text = first ∧ parts = [] ∨
        ∃ c rest, text = first ++ c :: rest ∧ separator c = true ∧
          splitWhere separator rest = parts) := by
  induction text generalizing first with
  | nil =>
    cases h
    exact ⟨by simp, .inl ⟨rfl, rfl⟩⟩
  | cons c rest ih =>
    obtain ⟨part, more, hparts⟩ := List.exists_cons_of_ne_nil (splitWhere_ne_nil separator rest)
    rw [splitWhere, hparts] at h
    split_ifs at h with hc
    · cases h
      exact ⟨by simp, .inr ⟨c, rest, rfl, hc, hparts⟩⟩
    · cases h
      obtain ⟨hpart, hcases⟩ := ih hparts
      refine ⟨List.forall_mem_cons.mpr ⟨by simpa using hc, hpart⟩, ?_⟩
      rcases hcases with ⟨rfl, rfl⟩ | ⟨other, after, rfl, hother, hafter⟩
      · exact .inl ⟨rfl, rfl⟩
      · exact .inr ⟨other, after, rfl, hother, hafter⟩

end Parts

/-! ### Words -/

/-- No white space stands in a text. -/
def NoBlank (text : List Char) : Prop := ∀ c ∈ text, isBlank c = false

instance (text : List Char) : Decidable (NoBlank text) :=
  decidable_of_iff (text.any isBlank = false) (by simp [NoBlank])

@[simp] theorem noBlank_nil : NoBlank [] := by simp [NoBlank]

@[simp] theorem noBlank_cons {c : Char} {text : List Char} :
    NoBlank (c :: text) ↔ isBlank c = false ∧ NoBlank text := by simp [NoBlank]

@[simp] theorem noBlank_append {left right : List Char} :
    NoBlank (left ++ right) ↔ NoBlank left ∧ NoBlank right := by
  simp [NoBlank, or_imp, forall_and]

/-- White space between two texts separates their words. -/
theorem wordsFrom_append_cons {blank : Char} (hblank : isBlank blank = true)
    (current text rest : List Char) :
    wordsFrom current (text ++ blank :: rest) = wordsFrom current text ++ words rest := by
  induction text generalizing current with
  | nil =>
    rw [List.nil_append, wordsFrom, wordsFrom, if_pos hblank, words]
    split_ifs <;> rfl
  | cons c text ih =>
    rw [List.cons_append, wordsFrom, wordsFrom, ih, ih]
    split_ifs <;> rfl

theorem words_append_cons {blank : Char} (hblank : isBlank blank = true) (text rest : List Char) :
    words (text ++ blank :: rest) = words text ++ words rest :=
  wordsFrom_append_cons hblank [] text rest

/-- Characters that are no white space go on with the run before them. -/
theorem wordsFrom_of_noBlank {current text : List Char} (h : NoBlank text)
    (hne : current ++ text ≠ []) : wordsFrom current text = [current ++ text] := by
  induction text generalizing current with
  | nil =>
    rw [List.append_nil] at hne ⊢
    rw [wordsFrom, if_neg (by simpa using hne)]
  | cons c text ih =>
    obtain ⟨hc, htext⟩ := noBlank_cons.mp h
    rw [wordsFrom, hc, if_neg Bool.false_ne_true, ih htext (by simp), List.append_assoc,
      List.singleton_append]

/-- A text without white space is its own only word. -/
theorem words_of_noBlank {text : List Char} (h : NoBlank text) (hne : text ≠ []) :
    words text = [text] :=
  wordsFrom_of_noBlank h hne

/-- A word goes on with the run before it, and no white space comes up in it. -/
theorem noBlank_of_mem_wordsFrom {current text word : List Char} (hcurrent : NoBlank current)
    (h : word ∈ wordsFrom current text) : NoBlank word := by
  induction text generalizing current with
  | nil =>
    rw [wordsFrom] at h
    split_ifs at h
    · cases h
    · rwa [List.mem_singleton.mp h]
  | cons c text ih =>
    rw [wordsFrom] at h
    split_ifs at h with hblank
    · exact ih noBlank_nil h
    · rcases List.mem_cons.mp h with rfl | hrest
      · exact hcurrent
      · exact ih noBlank_nil hrest
    · exact ih (by simpa [hcurrent] using hblank) h

theorem noBlank_of_mem_words {text word : List Char} (h : word ∈ words text) : NoBlank word :=
  noBlank_of_mem_wordsFrom noBlank_nil h

/-- White space in front of a text has no words. -/
theorem words_blank_append {front : List Char} (hfront : ∀ c ∈ front, isBlank c = true)
    (text : List Char) : words (front ++ text) = words text := by
  induction front with
  | nil => rfl
  | cons c front ih =>
    rw [List.forall_mem_cons] at hfront
    rw [List.cons_append, ← ih hfront.2]
    exact words_append_cons hfront.1 [] (front ++ text)

/-- White space behind a text has no words. -/
theorem words_append_blank (text : List Char) {back : List Char}
    (hback : ∀ c ∈ back, isBlank c = true) : words (text ++ back) = words text := by
  cases back with
  | nil => rw [List.append_nil]
  | cons c back =>
    rw [List.forall_mem_cons] at hback
    have hnone : words back = [] := by simpa [words, wordsFrom] using words_blank_append hback.2 []
    rw [words_append_cons hback.1, hnone, List.append_nil]

/-! ### Trimming -/

/-- A text neither begins nor ends with white space. -/
structure Trimmed (text : List Char) : Prop where
  /-- It does not begin with white space. -/
  head : ∀ c ∈ text.head?, isBlank c = false
  /-- It does not end with white space. -/
  last : ∀ c ∈ text.getLast?, isBlank c = false

/-- A text without white space neither begins nor ends with it. -/
theorem trimmed_of_forall {text : List Char} (h : ∀ c ∈ text, isBlank c = false) : Trimmed text :=
  ⟨fun c hc => h c (List.mem_of_mem_head? hc), fun c hc => h c (List.mem_of_getLast? hc)⟩

private theorem dropWhile_append_of_head {front text : List Char}
    (hfront : ∀ c ∈ front, isBlank c = true) (htext : ∀ c ∈ text.head?, isBlank c = false) :
    (front ++ text).dropWhile isBlank = text := by
  rw [List.dropWhile_append_of_pos hfront]
  cases text with
  | nil => rfl
  | cons c text => simp [htext c rfl]

/-- White space around a text is trimmed. -/
theorem trim_append {front text back : List Char} (hfront : ∀ c ∈ front, isBlank c = true)
    (hback : ∀ c ∈ back, isBlank c = true) (htext : Trimmed text) :
    trim (front ++ text ++ back) = text := by
  have hend : trimEnd (text ++ back) = text := by
    unfold trimEnd
    rw [List.reverse_append, dropWhile_append_of_head (by simpa using hback), List.reverse_reverse]
    simpa using htext.last
  cases text with
  | nil =>
    have hblank : ∀ c ∈ front ++ [] ++ back, isBlank c = true := by
      intro c hc
      rcases List.mem_append.mp hc with hmem | hmem
      · exact hfront c (by simpa using hmem)
      · exact hback c hmem
    have hstart : trimStart (front ++ [] ++ back) = [] := List.dropWhile_eq_nil_iff.mpr hblank
    rw [trim, hstart]
    rfl
  | cons c text =>
    have hstart : trimStart (front ++ c :: text ++ back) = c :: text ++ back := by
      rw [trimStart, List.append_assoc, dropWhile_append_of_head hfront]
      simpa using htext.head
    rw [trim, hstart, hend]

/-- A text is what trimming leaves of it, with nothing but white space around it; what is left
neither begins nor ends with white space. -/
theorem exists_trim (text : List Char) :
    ∃ front back, text = front ++ trim text ++ back ∧ (∀ c ∈ front, isBlank c = true) ∧
      (∀ c ∈ back, isBlank c = true) ∧ Trimmed (trim text) := by
  have hstart : text.takeWhile isBlank ++ trimStart text = text := List.takeWhile_append_dropWhile
  have hend : trim text ++ (trimStart text).rtakeWhile isBlank = trimStart text :=
    List.rdropWhile_append_rtakeWhile
  refine ⟨text.takeWhile isBlank, (trimStart text).rtakeWhile isBlank, ?_, ?_, ?_, ?_, ?_⟩
  · rw [List.append_assoc, hend, hstart]
  · exact fun c hc => List.mem_takeWhile_imp hc
  · exact fun c hc => List.mem_rtakeWhile_imp hc
  case refine_4 =>
    intro c hc
    have hhead : (text.dropWhile isBlank).head? = some c := by
      rw [← trimStart, ← hend, List.head?_append, Option.mem_def.mp hc]
      rfl
    have hnot := List.head?_dropWhile_not isBlank text
    rwa [hhead] at hnot
  case refine_5 =>
    intro c hc
    obtain ⟨hne, rfl⟩ := List.mem_getLast?_eq_getLast hc
    exact Bool.eq_false_iff.mpr (List.rdropWhile_last_not isBlank (trimStart text) hne)

/-- Trimming takes no word away. -/
theorem words_trim (text : List Char) : words (trim text) = words text := by
  obtain ⟨front, back, htext, hfront, hback, -⟩ := exists_trim text
  conv_rhs => rw [htext, words_append_blank _ hback, words_blank_append hfront]

theorem trimmed_trim (text : List Char) : Trimmed (trim text) := by
  obtain ⟨-, -, -, -, -, htrimmed⟩ := exists_trim text
  exact htrimmed

end StyleTokens.Text
