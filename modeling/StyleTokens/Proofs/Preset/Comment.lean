import StyleTokens.Preset.Source
import StyleTokens.Preset.Stylesheet

/-!
# Comments and the labels inside them

A comment in front of a rule shows a label from which the ends of comments were removed, once and
from left to right. What is left of a label can still hold such an end: removing one brings its
neighbours together. The file says exactly for which labels that happens.
-/

namespace StyleTokens

/-- The end of a comment stands somewhere in a text. -/
def HoldsCommentEnd (text : List Char) : Prop := ['*', '/'] <:+: text

/-- Whole ends of comments, one behind the other. -/
def commentEnds (count : Nat) : List Char := (List.replicate count ['*', '/']).flatten

/-- Somewhere in a text the two characters of an end stand around one or more whole ends. -/
def NestsCommentEnd (text : List Char) : Prop :=
  ∃ count, '*' :: (commentEnds (count + 1) ++ ['/']) <:+: text

@[simp] theorem commentEnds_zero : commentEnds 0 = [] := rfl

@[simp] theorem commentEnds_succ (count : Nat) :
    commentEnds (count + 1) = '*' :: '/' :: commentEnds count := rfl

/-- What is left of a text begins with a slash exactly if the text does so behind whole ends. -/
theorem slash_prefix_dropCommentEnds_iff (text : List Char) :
    ['/'] <+: dropCommentEnds text ↔ ∃ count, commentEnds count ++ ['/'] <+: text := by
  fun_induction dropCommentEnds text with
  | case1 rest ih =>
    rw [ih]
    constructor
    · rintro ⟨count, h⟩
      exact ⟨count + 1, by simpa using h⟩
    · rintro ⟨count, h⟩
      cases count with
      | zero => simp at h
      | succ count => exact ⟨count, by simpa using h⟩
  | case2 c rest hpair ih =>
    constructor
    · intro h
      exact ⟨0, by simpa using h⟩
    · rintro ⟨count, h⟩
      cases count with
      | zero => simpa using h
      | succ count =>
        obtain ⟨tail, htail⟩ := h
        simp only [commentEnds_succ, List.cons_append, List.cons.injEq] at htail
        exact absurd htail.2.symm (hpair _ htail.1.symm)
  | case3 =>
    simp only [List.prefix_nil, List.cons_ne_self, false_iff, not_exists]
    intro count h
    simp at h

/-- Removing the ends of comments takes characters away and adds none. -/
theorem dropCommentEnds_subset (text : List Char) : dropCommentEnds text ⊆ text := by
  fun_induction dropCommentEnds text with
  | case1 rest ih => exact fun c hc => by simp [ih hc]
  | case2 c rest _ ih => exact List.cons_subset_cons c ih
  | case3 => exact List.Subset.refl _

/-- A nested end at the very beginning of a text, seen from its first character. -/
private theorem nested_prefix_cons_iff (c : Char) (rest : List Char) :
    (∃ count, '*' :: (commentEnds (count + 1) ++ ['/']) <+: c :: rest) ↔
      c = '*' ∧ ∃ count, commentEnds (count + 1) ++ ['/'] <+: rest := by
  simp only [List.cons_prefix_cons, exists_and_left, eq_comm]

private theorem nestsCommentEnd_cons_iff (c : Char) (rest : List Char) :
    NestsCommentEnd (c :: rest) ↔
      (c = '*' ∧ ∃ count, commentEnds (count + 1) ++ ['/'] <+: rest) ∨ NestsCommentEnd rest := by
  unfold NestsCommentEnd
  simp only [List.infix_cons_iff, exists_or, nested_prefix_cons_iff]

/-- What is left of a text holds the end of a comment exactly if the text nests one. -/
theorem holdsCommentEnd_dropCommentEnds_iff (text : List Char) :
    HoldsCommentEnd (dropCommentEnds text) ↔ NestsCommentEnd text := by
  fun_induction dropCommentEnds text with
  | case1 rest ih =>
    -- Neither character of an end that is removed can begin a nested end.
    rw [ih, nestsCommentEnd_cons_iff, nestsCommentEnd_cons_iff]
    simp
  | case2 c rest hpair ih =>
    rw [nestsCommentEnd_cons_iff, ← ih, HoldsCommentEnd, List.infix_cons_iff,
      List.cons_prefix_cons, slash_prefix_dropCommentEnds_iff]
    refine or_congr_left ⟨?_, ?_⟩
    · rintro ⟨rfl, count, h⟩
      cases count with
      | zero =>
        obtain ⟨tail, htail⟩ := h
        exact absurd htail.symm (hpair _ rfl)
      | succ count => exact ⟨rfl, count, h⟩
    · rintro ⟨rfl, count, h⟩
      exact ⟨rfl, count + 1, h⟩
  | case3 =>
    simp [HoldsCommentEnd, NestsCommentEnd]

/-- A word begins a text with a separator exactly if it begins the part before the separator,
when it does not contain the separator itself. -/
private theorem prefix_append_cons_iff {separator : Char} {word after : List Char}
    (before : List Char) (hword : separator ∉ word) :
    word <+: before ++ separator :: after ↔ word <+: before := by
  induction before generalizing word with
  | nil =>
    cases word with
    | nil => simp
    | cons c word =>
      have hne : c ≠ separator := fun heq => hword (by simp [heq])
      simp [List.cons_prefix_cons, hne]
  | cons b before ih =>
    cases word with
    | nil => simp
    | cons c word =>
      have hrest : separator ∉ word := fun hmem => hword (by simp [hmem])
      simp only [List.cons_append, List.cons_prefix_cons, ih hrest]

/-- A word stands in a text with a separator exactly if it stands on one side of it, when it is
not empty and does not contain the separator itself. -/
private theorem infix_append_cons_iff {separator : Char} {word before after : List Char}
    (hne : word ≠ []) (hword : separator ∉ word) :
    word <:+: before ++ separator :: after ↔ word <:+: before ∨ word <:+: after := by
  induction before with
  | nil =>
    have hhead : ¬ word <+: separator :: after := by
      intro h
      exact hne (List.prefix_nil.mp ((prefix_append_cons_iff [] hword).mp h))
    simp only [List.nil_append, List.infix_cons_iff, hhead, List.infix_nil, hne]
  | cons c before ih =>
    rw [List.cons_append, List.infix_cons_iff, List.infix_cons_iff, ih, ← List.cons_append,
      prefix_append_cons_iff _ hword, or_assoc]

/-- What stands before the generator's own end of a comment holds an end exactly if the text
inside the comment does. -/
theorem holdsCommentEnd_opened_iff (comment : String) :
    HoldsCommentEnd ("/* Typography Preset: " ++ comment ++ " ").toList ↔
      HoldsCommentEnd comment.toList := by
  have hsplit : ("/* Typography Preset: " ++ comment ++ " ").toList =
      ("/* Typography Preset:".toList ++ ' ' :: comment.toList) ++ ' ' :: [] := by
    simp [String.toList_append]
  have hopening : ¬ ['*', '/'] <:+: "/* Typography Preset:".toList := by
    simp [List.infix_cons_iff, List.cons_prefix_cons]
  unfold HoldsCommentEnd
  rw [hsplit, infix_append_cons_iff (by simp) (by simp), infix_append_cons_iff (by simp) (by simp)]
  have hend : ¬ ['*', '/'] <:+: ([] : List Char) := by simp
  simp only [hopening, hend, false_or, or_false]

/-- A safe id holds none of the characters that markup and comments are made of. -/
theorem isSafeId_char_ne {id : String} (hid : isSafeId id = true) {c : Char}
    (hc : isIdChar c = false) : c ∉ id.toList := by
  intro hmem
  simp only [isSafeId, Bool.and_eq_true, List.all_eq_true] at hid
  have := hid.2 c hmem
  simp [hc] at this

/-- A text without stars nests no end of a comment. -/
private theorem not_nestsCommentEnd_of_star_notMem {text : List Char} (hstar : '*' ∉ text) :
    ¬ NestsCommentEnd text := by
  rintro ⟨count, h⟩
  exact hstar (h.subset (by simp))

/-- The label in a comment is the preset's own, or its id when the label is empty; whether it
nests the end of a comment is decided by the label alone, since an id has no stars. -/
private theorem nestsCommentEnd_shownLabel_iff {id label : String} (hid : isSafeId id = true) :
    NestsCommentEnd (Text.stripMarkup (if label.isEmpty then id else label).toList) ↔
      NestsCommentEnd (Text.stripMarkup label.toList) := by
  by_cases hempty : label.isEmpty
  · have hlabel : label = "" := by simpa using hempty
    have hstar : '*' ∉ Text.stripMarkup id.toList := fun hmem =>
      isSafeId_char_ne hid (c := '*') (by decide) (List.mem_filter.mp hmem).1
    subst hlabel
    rw [if_pos hempty]
    refine iff_of_false (not_nestsCommentEnd_of_star_notMem hstar) ?_
    exact not_nestsCommentEnd_of_star_notMem (by simp [Text.stripMarkup])
  · rw [if_neg hempty]

/-- The rule of unchecked data with a text as its label, when some declaration is left. -/
private theorem ruleOfValue_of_declarations (id : String) (annotate : Bool) {label : String}
    {preset properties : Value.Entries} {lines : List Declaration}
    (hlabel : Value.Entries.get preset "label" = .str label)
    (hproperties : Value.Entries.get preset "properties" = .map properties)
    (hlines : declarations (bagOfEntries properties) = .ok lines) (hsome : lines ≠ []) :
    ruleOfValue (.str id) (.map preset) annotate =
      .ok ((if annotate then labelComment (if label.isEmpty then id else label) else "") ++
        ruleBlock (presetSelector id) lines) := by
  have hcomment : commentOfValue annotate (.str id) (.str label) =
      .ok (if annotate then labelComment (if label.isEmpty then id else label) else "") := by
    cases annotate with
    | false => rfl
    | true => by_cases h : label.isEmpty <;> simp [commentOfValue, labelOfValue, Value.text?, h]
  have hempty : lines.isEmpty = false := by simpa using hsome
  simp only [ruleOfValue, hproperties, hlabel, hlines, hcomment, bind, Except.bind, hempty,
    Bool.false_eq_true, if_false]
  rfl

/-- An annotated rule is a comment with a text `shown` in it, and then the rule without the
comment. The end that the generator writes is the first one in the text exactly if the label
without markup characters nests no end of a comment; else a part of the label is read as a rule. -/
theorem annotatedRule_ends_early_iff {id label : String} {preset properties : Value.Entries}
    {lines : List Declaration} (hid : isSafeId id = true)
    (hlabel : Value.Entries.get preset "label" = .str label)
    (hproperties : Value.Entries.get preset "properties" = .map properties)
    (hlines : declarations (bagOfEntries properties) = .ok lines) (hsome : lines ≠ []) :
    ∃ plain shown, ruleOfValue (.str id) (.map preset) false = .ok plain ∧
      ruleOfValue (.str id) (.map preset) true =
        .ok ("/* Typography Preset: " ++ shown ++ " */
" ++ plain) ∧
      (HoldsCommentEnd shown.toList ↔ NestsCommentEnd (Text.stripMarkup label.toList)) ∧
      (HoldsCommentEnd ("/* Typography Preset: " ++ shown ++ " ").toList ↔
        NestsCommentEnd (Text.stripMarkup label.toList)) := by
  have hrule (annotate : Bool) :=
    ruleOfValue_of_declarations id annotate hlabel hproperties hlines hsome
  have hshown : HoldsCommentEnd (commentText (if label.isEmpty then id else label)).toList ↔
      NestsCommentEnd (Text.stripMarkup label.toList) := by
    rw [← nestsCommentEnd_shownLabel_iff hid, ← holdsCommentEnd_dropCommentEnds_iff, commentText,
      String.toList_ofList]
  refine ⟨ruleBlock (presetSelector id) lines,
    commentText (if label.isEmpty then id else label), ?_, ?_, hshown, ?_⟩
  · simpa only [Bool.false_eq_true, if_false, String.empty_append] using hrule false
  · rw [hrule true, if_pos rfl]
    rfl
  · rw [holdsCommentEnd_opened_iff, hshown]

/-- A preset whose label is a comment end inside another. -/
def nestedLabelPreset : Value.Entries :=
  [(.str "label", .str "**//"), (.str "properties", .map [(.str "color", .str "red")])]

/-- The statement at a label that is a comment end inside another. -/
theorem annotatedRule_of_nestedLabel :
    ∃ plain shown, ruleOfValue (.str "x") (.map nestedLabelPreset) false = .ok plain ∧
      ruleOfValue (.str "x") (.map nestedLabelPreset) true =
        .ok ("/* Typography Preset: " ++ shown ++ " */\n" ++ plain) ∧
      (HoldsCommentEnd shown.toList ↔ NestsCommentEnd (Text.stripMarkup "**//".toList)) ∧
      (HoldsCommentEnd ("/* Typography Preset: " ++ shown ++ " ").toList ↔
        NestsCommentEnd (Text.stripMarkup "**//".toList)) :=
  @annotatedRule_ends_early_iff "x" "**//" nestedLabelPreset [(.str "color", .str "red")]
    [⟨"color", "red"⟩] rfl rfl rfl rfl (by simp)

/-- With that label the comment is over before the end that the generator writes. -/
theorem not_annotatedRule_comment_closed_once :
    ¬ ∃ plain shown, ruleOfValue (.str "x") (.map nestedLabelPreset) false = .ok plain ∧
      ruleOfValue (.str "x") (.map nestedLabelPreset) true =
        .ok ("/* Typography Preset: " ++ shown ++ " */\n" ++ plain) ∧
      ¬ HoldsCommentEnd shown.toList := by
  rintro ⟨plain, shown, hplain, hannotated, hclosed⟩
  have hrule (annotate : Bool) := @ruleOfValue_of_declarations "x" annotate "**//"
    nestedLabelPreset [(.str "color", .str "red")] [⟨"color", "red"⟩] rfl rfl rfl (by simp)
  have hplain' : ruleBlock (presetSelector "x") [⟨"color", "red"⟩] = plain := by
    rw [hrule false] at hplain
    simpa using hplain
  have hshown : commentText "**//" = shown := by
    rw [hrule true, ← hplain', if_pos rfl] at hannotated
    unfold labelComment at hannotated
    have hchars := congrArg String.toList (Except.ok.inj hannotated)
    simp only [String.toList_append, List.append_cancel_right_eq,
      List.append_cancel_left_eq] at hchars
    exact String.toList_injective hchars
  apply hclosed
  rw [← hshown, commentText, String.toList_ofList, holdsCommentEnd_dropCommentEnds_iff]
  exact ⟨0, ⟨[], [], rfl⟩⟩

end StyleTokens
