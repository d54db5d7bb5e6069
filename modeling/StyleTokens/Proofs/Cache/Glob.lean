import Mathlib.Data.List.Infix

/-!
# Patterns of keys

A server selects keys by a pattern: an asterisk stands for any text, a question mark for any
character, brackets for one of the characters between them, and a backslash takes the meaning from
the character behind it. A text with an asterisk behind it stands for what begins with the text
exactly if none of these characters is in it.
-/

namespace StyleTokens

/-- A part of a pattern. -/
inductive GlobPart where
  /-- Any text. -/
  | any
  /-- One character that is in some of the ranges, or in none of them. -/
  | one (negated : Bool) (ranges : List (Char × Char))
  deriving DecidableEq

namespace GlobPart

/-- A character that stands for itself. -/
def letter (c : Char) : GlobPart := .one false [(c, c)]

mutual

/-- The parts of a pattern. -/
def outside : List Char → List GlobPart
  | [] => []
  | '*' :: rest => .any :: outside rest
  | '?' :: rest => .one true [] :: outside rest
  | '[' :: '^' :: rest => inside true [] rest
  | '[' :: rest => inside false [] rest
  | '\\' :: c :: rest => letter c :: outside rest
  | c :: rest => letter c :: outside rest

/-- The parts of a pattern from between brackets on, behind some ranges. Brackets that are not
closed end with the pattern. -/
def inside (negated : Bool) (ranges : List (Char × Char)) : List Char → List GlobPart
  | [] => [.one negated ranges]
  | '\\' :: c :: rest => inside negated ((c, c) :: ranges) rest
  | ']' :: rest => .one negated ranges :: outside rest
  | c :: '-' :: d :: rest => inside negated ((c, d) :: ranges) rest
  | c :: rest => inside negated ((c, c) :: ranges) rest

end

/-- Whether a character is in a range, whose ends may come in either order. -/
def inRange (c : Char) (range : Char × Char) : Bool :=
  range.1 ≤ c && c ≤ range.2 || range.2 ≤ c && c ≤ range.1

/-- Whether parts stand for a text. -/
def takes : List GlobPart → List Char → Bool
  | [], text => text.isEmpty
  | .any :: parts, text => text.tails.any (takes parts)
  | .one negated ranges :: parts, c :: text =>
    (ranges.any (inRange c) != negated) && takes parts text
  | .one .. :: _, [] => false

/-- Whether a pattern selects a key. -/
def selects (pattern key : String) : Bool := takes (outside pattern.toList) key.toList

/-- Whether a character has a meaning of its own in a pattern. -/
def isSpecial (c : Char) : Bool := c == '*' || c == '?' || c == '[' || c == '\\'

/-! ### How many parts there are -/

/-- A pattern has no more parts than characters; from between brackets on it may have one more. -/
theorem length_parts :
    (∀ text, (outside text).length ≤ text.length) ∧
      ∀ negated ranges text, (inside negated ranges text).length ≤ max 1 text.length := by
  -- A part is written when at least one character was read.
  apply outside.mutual_induct
  case case5 =>
    intro rest hplain ih
    rw [outside.eq_5 rest hplain, List.length_cons]
    omega
  case case7 =>
    intro c rest h₁ h₂ h₃ h₄ h₅ ih
    rw [outside.eq_7 c rest h₁ h₂ h₃ h₄ h₅, List.length_cons, List.length_cons]
    omega
  case case11 =>
    intro negated ranges c d rest h₁ h₂ ih
    rw [inside.eq_4 negated ranges c d rest h₁ h₂]
    simp only [List.length_cons]
    omega
  case case12 =>
    intro negated ranges c rest h₁ h₂ h₃ ih
    rw [inside.eq_5 negated ranges c rest h₁ h₂ h₃, List.length_cons]
    omega
  all_goals
    intros
    simp only [outside, inside, List.length_cons, List.length_nil]
    omega

/-- Behind a bracket or a backslash there are fewer parts than characters, and an asterisk that ends
the pattern is one of these. -/
theorem length_outside_lt {c : Char} (hc : c = '[' ∨ c = '\\') {text : List Char} (h : text ≠ []) :
    (outside (c :: text)).length ≤ text.length := by
  obtain ⟨d, rest, rfl⟩ := List.exists_cons_of_ne_nil h
  have houtside := length_parts.1 rest
  have hinside := fun negated => length_parts.2 negated []
  rcases hc with rfl | rfl
  · by_cases hcircumflex : d = '^'
    · have hbound := hinside true rest
      rw [hcircumflex, outside, List.length_cons]
      omega
    · have hbound := hinside false (d :: rest)
      rw [outside.eq_5 _ fun _ heq => hcircumflex (List.cons.inj heq).1]
      simp only [List.length_cons] at hbound ⊢
      omega
  · rw [outside, List.length_cons, List.length_cons]
    omega

/-! ### What parts stand for -/

@[simp] theorem takes_any (parts : List GlobPart) (text : List Char) :
    takes (.any :: parts) text ↔ ∃ behind, behind <:+ text ∧ takes parts behind := by
  simp [takes, List.any_eq_true, List.mem_tails]

theorem takes_letter {parts : List GlobPart} {c : Char} {text : List Char} :
    takes (letter c :: parts) text ↔ ∃ rest, text = c :: rest ∧ takes parts rest := by
  cases text with
  | nil => simp [letter, takes]
  | cons d text =>
    have hsame : inRange d (c, c) = true ↔ d = c := by
      simp only [inRange, Bool.or_eq_true, Bool.and_eq_true, decide_eq_true_eq]
      constructor
      · rintro (⟨hle, hge⟩ | ⟨hle, hge⟩) <;> exact Char.le_antisymm hge hle
      · rintro rfl
        exact .inl ⟨Char.le_refl _, Char.le_refl _⟩
    simp [letter, takes, hsame]

theorem takes_one {parts : List GlobPart} {text : List Char} :
    takes (.one true [] :: parts) text ↔ ∃ c rest, text = c :: rest ∧ takes parts rest := by
  cases text with
  | nil => simp [takes]
  | cons c text => simp [takes]

/-- Where no part stands for any text, all texts are as long as there are parts. -/
theorem length_eq_of_takes {parts : List GlobPart} {text : List Char} (h : takes parts text)
    (hany : .any ∉ parts) : text.length = parts.length := by
  induction parts generalizing text with
  | nil => simpa [takes] using h
  | cons part parts ih =>
    cases part with
    | any => simp at hany
    | one negated ranges =>
      cases text with
      | nil => simp [takes] at h
      | cons c text =>
        have hrest : takes parts text := by
          simp only [takes, Bool.and_eq_true] at h
          exact h.2
        rw [List.length_cons, List.length_cons, ih hrest (by simpa using hany)]

/-- Parts that stand for some text stand for one that is no longer than they are, and for a shorter
one if some part stands for any text. -/
theorem exists_takes_short {parts : List GlobPart} {text : List Char} (h : takes parts text) :
    ∃ short, takes parts short ∧ short.length ≤ parts.length ∧
      (.any ∈ parts → short.length < parts.length) := by
  induction parts generalizing text with
  | nil => exact ⟨[], rfl, le_rfl, by simp⟩
  | cons part parts ih =>
    cases part with
    | any =>
      obtain ⟨behind, -, hbehind⟩ := (takes_any parts text).mp h
      obtain ⟨short, hshort, hlength, -⟩ := ih hbehind
      have htakes := (takes_any parts short).mpr ⟨short, List.suffix_rfl, hshort⟩
      exact ⟨short, htakes, by simp; omega, fun _ => by simp; omega⟩
    | one negated ranges =>
      cases text with
      | nil => simp [takes] at h
      | cons c text =>
        simp only [takes, Bool.and_eq_true] at h
        obtain ⟨short, hshort, hlength, hless⟩ := ih h.2
        refine ⟨c :: short, ?_, by simpa using hlength, fun hany => ?_⟩
        · simp only [takes, Bool.and_eq_true]
          exact ⟨h.1, hshort⟩
        · simpa using hless (by simpa using hany)

/-! ### What begins with a text -/

/-- A character without a meaning of its own stands for itself. -/
theorem outside_cons {c : Char} (h : isSpecial c = false) (text : List Char) :
    outside (c :: text) = letter c :: outside text := by
  simp only [isSpecial, Bool.or_eq_false_iff, beq_eq_false_iff_ne, ne_eq] at h
  obtain ⟨⟨⟨hany, hone⟩, hopen⟩, hslash⟩ := h
  exact outside.eq_7 c text hany hone (fun _ heq _ => hopen heq) hopen fun _ _ heq _ => hslash heq

/-- Plain characters with an asterisk behind them stand for what begins with them. -/
theorem takes_stem_iff {stem : List Char} (h : ∀ c ∈ stem, isSpecial c = false)
    (text : List Char) : takes (outside (stem ++ ['*'])) text ↔ stem <+: text := by
  induction stem generalizing text with
  | nil =>
    have hrest : ∃ behind, behind <:+ text ∧ takes [] behind := ⟨[], List.nil_suffix, rfl⟩
    simpa [outside] using hrest
  | cons c stem ih =>
    rw [List.cons_append, outside_cons (h c (by simp)), takes_letter]
    simp only [ih fun d hd => h d (List.mem_cons_of_mem c hd)]
    constructor
    · rintro ⟨rest, rfl, hprefix⟩
      exact (List.prefix_cons_inj c).mpr hprefix
    · rintro ⟨rest, rfl⟩
      exact ⟨stem ++ rest, rfl, List.prefix_append stem rest⟩

/-- Where brackets or a backslash come first, a shorter text is taken, too. -/
theorem exists_shorter {c : Char} (hc : c = '[' ∨ c = '\\') {stem : List Char}
    (h : ∀ text, c :: stem <+: text → takes (outside (c :: stem ++ ['*'])) text) :
    ∃ short, takes (outside (c :: stem ++ ['*'])) short ∧ short.length < stem.length + 1 := by
  have hself := h (c :: stem) List.prefix_rfl
  have hlonger := h (c :: stem ++ [c]) (List.prefix_append _ _)
  have hany : .any ∈ outside (c :: stem ++ ['*']) := by
    by_contra hnone
    have hlength := length_eq_of_takes hself hnone
    rw [← length_eq_of_takes hlonger hnone] at hlength
    simp at hlength
  have hne : stem ++ ['*'] ≠ [] := by simp
  have hparts := length_outside_lt hc hne
  obtain ⟨short, hshort, -, hless⟩ := exists_takes_short hself
  refine ⟨short, hshort, (hless hany).trans_le ?_⟩
  simpa using hparts

/-- A text that stands for what begins with it, when an asterisk is put behind it, is of plain
characters. -/
theorem forall_plain_of_takes {stem : List Char}
    (h : ∀ text, takes (outside (stem ++ ['*'])) text ↔ stem <+: text) :
    ∀ c ∈ stem, isSpecial c = false := by
  induction stem with
  | nil => simp
  | cons c stem ih =>
    have hself := (h (c :: stem)).mpr List.prefix_rfl
    have hfirst : ∀ d text, takes (outside (c :: stem ++ ['*'])) (d :: text) → c = d :=
      fun d text htakes => (List.cons_prefix_cons.mp ((h _).mp htakes)).1
    by_cases hspecial : isSpecial c = false
    · refine List.forall_mem_cons.mpr ⟨hspecial, ih fun text => ?_⟩
      have hcons := h (c :: text)
      rw [List.cons_append, outside_cons hspecial, takes_letter, List.prefix_cons_inj] at hcons
      simpa using hcons
    · exfalso
      by_cases hc : c = '[' ∨ c = '\\'
      · obtain ⟨short, hshort, hless⟩ := exists_shorter hc fun text => (h text).mpr
        have hlength := ((h short).mp hshort).length_le
        rw [List.length_cons] at hlength
        omega
      · have hwild : c = '*' ∨ c = '?' := by
          simp [isSpecial] at hspecial
          tauto
        rcases hwild with rfl | rfl
        · -- What an asterisk stands for can begin with any character.
          rw [List.cons_append, outside, takes_any] at hself
          obtain ⟨behind, -, hbehind⟩ := hself
          have hother : takes (outside ('*' :: stem ++ ['*'])) ('!' :: behind) := by
            rw [List.cons_append, outside, takes_any]
            exact ⟨behind, List.suffix_cons '!' behind, hbehind⟩
          exact absurd (hfirst _ _ hother) (by decide)
        · rw [List.cons_append, outside, takes_one] at hself
          obtain ⟨d, rest, -, hrest⟩ := hself
          have hother : takes (outside ('?' :: stem ++ ['*'])) ('!' :: rest) := by
            rw [List.cons_append, outside, takes_one]
            exact ⟨'!', rest, rfl, hrest⟩
          exact absurd (hfirst _ _ hother) (by decide)

/-- With an asterisk behind it, a text selects the keys that begin with it exactly if no character
of it has a meaning of its own. -/
theorem selects_stem_iff (stem : String) :
    (∀ key : String, selects (stem ++ "*") key ↔ key.startsWith stem) ↔
      ∀ c ∈ stem.toList, isSpecial c = false := by
  have hpattern : (stem ++ "*").toList = stem.toList ++ ['*'] := by
    rw [String.toList_append]
    rfl
  simp only [selects, hpattern, String.startsWith_string_iff]
  constructor
  · intro h
    refine forall_plain_of_takes fun text => ?_
    simpa using h (String.ofList text)
  · exact fun h key => takes_stem_iff h key.toList

end GlobPart

end StyleTokens
