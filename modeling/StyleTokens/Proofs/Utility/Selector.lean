import StyleTokens.Proofs.ClassName.Distinct
import StyleTokens.Utility.Sheet

/-!
# Reading a class selector

A class selector is a dot and an identifier. Letters, digits, hyphens and underscores of the name
stand for themselves, any other character needs a backslash, and so does a digit that comes first.
The sheet puts a backslash before colons only. So a selector is read as the class that it was
written for if no other character of its breakpoint and its size needs one.
-/

namespace StyleTokens

/-! ### Identifiers -/

/-- Whether a character of an identifier stands for itself. -/
def isNameChar (c : Char) : Bool := c.isAlphanum || c == '-' || c == '_'

/-- The name that a text begins with, and what follows it. -/
def readIdentifier : List Char → List Char × List Char
  | '\\' :: c :: rest => (c :: (readIdentifier rest).1, (readIdentifier rest).2)
  | c :: rest =>
    if isNameChar c then (c :: (readIdentifier rest).1, (readIdentifier rest).2)
    else ([], c :: rest)
  | [] => ([], [])

/-- Whether a name's first character needs a backslash although it can be part of a name. -/
def BeginsWithDigit (text : List Char) : Prop := ∃ c ∈ text.head?, c.isDigit

instance (text : List Char) : Decidable (BeginsWithDigit text) :=
  decidable_of_iff (text.head?.any Char.isDigit = true) (Option.any_eq_true _ _)

/-- The class that a selector stands for, if all of it is a class selector. -/
def selectedClass? (selector : String) : Option String :=
  match selector.toList with
  | '.' :: text =>
    if text = [] ∨ BeginsWithDigit text ∨ (readIdentifier text).2 ≠ [] then none
    else some (String.ofList (readIdentifier text).1)
  | _ => none

/-! ### Backslashes -/

/-- A character as it stands in a selector. -/
def escapedChar (c : Char) : List Char := if c = ':' then ['\\', ':'] else [c]

theorem toList_escapeSelector (name : String) :
    (escapeSelector name).toList = name.toList.flatMap escapedChar := by
  rw [escapeSelector, String.toList_ofList]
  rfl

theorem readIdentifier_cons {c : Char} (h : isNameChar c) (rest : List Char) :
    readIdentifier (c :: rest) = (c :: (readIdentifier rest).1, (readIdentifier rest).2) := by
  have hslash : c ≠ '\\' := by
    rintro rfl
    exact absurd h (by decide)
  rw [readIdentifier.eq_2 _ _ fun _ _ heq => absurd heq hslash, if_pos h]

/-- Where all other characters stand for themselves, colons are the only ones that need a
backslash. -/
theorem readIdentifier_escaped {name : List Char} (h : ∀ c ∈ name, isNameChar c ∨ c = ':') :
    readIdentifier (name.flatMap escapedChar) = (name, []) := by
  induction name with
  | nil => rfl
  | cons c name ih =>
    have hrest := ih fun d hd => h d (List.mem_cons_of_mem _ hd)
    rw [List.flatMap_cons, escapedChar]
    split
    · next hcolon =>
      rw [hcolon, List.cons_append, List.cons_append, List.nil_append, readIdentifier, hrest]
    · next hcolon =>
      have hname := (h c (by simp)).resolve_right hcolon
      rw [List.singleton_append, readIdentifier_cons hname, hrest]

/-- A text is longer than the name that it is read as, by a backslash for each character that does
not stand for itself. -/
theorem length_readIdentifier {text : List Char} (h : (readIdentifier text).2 = []) :
    (readIdentifier text).1.length + (readIdentifier text).1.countP (!isNameChar ·) ≤
      text.length := by
  fun_induction readIdentifier text with
  | case1 c rest ih =>
    have hone := List.countP_le_length (p := (!isNameChar ·)) (l := [c])
    have hrest := ih h
    rw [← List.singleton_append, List.countP_append]
    simp only [List.length_append, List.length_cons, List.length_nil] at hone ⊢
    omega
  | case2 c rest _ hname ih =>
    have hrest := ih h
    simp only [List.length_cons, List.countP_cons, hname]
    simp
    omega
  | case3 => simp at h
  | case4 => simp

/-- The backslashes in a selector are as many as the colons in its class. -/
theorem length_escaped (name : List Char) :
    (name.flatMap escapedChar).length = name.length + name.countP (· == ':') := by
  induction name with
  | nil => rfl
  | cons c name ih =>
    rw [List.flatMap_cons, List.length_append, ih, List.length_cons, List.countP_cons, escapedChar]
    by_cases hcolon : c = ':' <;> simp [hcolon] <;> omega

/-- The characters that do not stand for themselves are the colons and others. -/
theorem countP_not_isNameChar (name : List Char) :
    name.countP (!isNameChar ·) =
      name.countP (· == ':') + name.countP fun c => !isNameChar c && c != ':' := by
  have hcolon : isNameChar ':' = false := by decide
  induction name with
  | nil => rfl
  | cons c name ih =>
    rw [List.countP_cons, List.countP_cons, List.countP_cons, ih]
    by_cases hc : c = ':'
    · simp only [hc, hcolon, bne_self_eq_false, beq_self_eq_true, Bool.not_false, Bool.and_false]
      simp only [if_true, Bool.false_eq_true, if_false]
      omega
    · simp [hc]
      omega

/-- A name is read back exactly if every character but the colons stands for itself. -/
theorem readIdentifier_escaped_iff {name : List Char} :
    readIdentifier (name.flatMap escapedChar) = (name, []) ↔
      ∀ c ∈ name, isNameChar c ∨ c = ':' := by
  refine ⟨fun hread c hc => ?_, readIdentifier_escaped⟩
  have hlength := length_readIdentifier (congrArg Prod.snd hread)
  rw [hread, length_escaped, countP_not_isNameChar] at hlength
  have hothers : (name.countP fun c => !isNameChar c && c != ':') = 0 := by
    simp only at hlength
    omega
  have hother := List.countP_eq_zero.mp hothers c hc
  by_cases hname : isNameChar c
  · exact .inl hname
  · exact .inr (by simpa [hname] using hother)

/-! ### Selectors -/

/-- A backslash makes no difference to whether a name begins with a digit. -/
theorem beginsWithDigit_escaped (name : List Char) :
    BeginsWithDigit (name.flatMap escapedChar) ↔ BeginsWithDigit name := by
  cases name with
  | nil => rfl
  | cons c name =>
    rw [List.flatMap_cons, escapedChar]
    by_cases hcolon : c = ':'
    · simp [BeginsWithDigit, hcolon]
    · simp [BeginsWithDigit, hcolon]

/-- A name is selected exactly if it does not begin with a digit and every character but the colons
stands for itself. -/
theorem selectedClass?_escapeSelector {name : String} (hne : name ≠ "") :
    selectedClass? ("." ++ escapeSelector name) = some name ↔
      ¬BeginsWithDigit name.toList ∧ ∀ c ∈ name.toList, isNameChar c ∨ c = ':' := by
  have hdot : ("." ++ escapeSelector name).toList = '.' :: name.toList.flatMap escapedChar := by
    rw [String.toList_append, toList_escapeSelector]
    rfl
  have hlength := length_escaped name.toList
  rw [← readIdentifier_escaped_iff, ← beginsWithDigit_escaped, selectedClass?, hdot]
  generalize name.toList.flatMap escapedChar = text at hlength
  have htext : text ≠ [] := by
    rintro rfl
    have hzero : name.toList.length = 0 := by
      rw [List.length_nil] at hlength
      omega
    exact hne (String.toList_eq_nil_iff.mp (List.eq_nil_of_length_eq_zero hzero))
  have hread : readIdentifier text = (name.toList, []) ↔
      (readIdentifier text).2 = [] ∧ String.ofList (readIdentifier text).1 = name := by
    rw [Prod.ext_iff, ← String.toList_inj, String.toList_ofList, and_comm]
  rw [hread]
  by_cases hdigit : BeginsWithDigit text
  · simp [hdigit]
  · by_cases hrest : (readIdentifier text).2 = []
    · simp [htext, hdigit, hrest]
    · simp [hrest]

/-! ### Classes -/

theorem isNameChar_classStem (category : StyleCategory) (side : Side) :
    ∀ c ∈ classStem category side, isNameChar c := by
  have hall : (classStem category side).all isNameChar = true := by
    cases category <;> cases side <;> decide
  exact List.all_eq_true.mp hall

/-- The characters of a class name that may need a backslash are those of its breakpoint and its
size, and the colon between them. -/
theorem forall_mem_className (category : StyleCategory) (breakpoint : String) (side : Side)
    (size : String) :
    (∀ c ∈ (className category.stem breakpoint side size).toList, isNameChar c ∨ c = ':') ↔
      ∀ c ∈ breakpoint.toList ++ size.toList, isNameChar c ∨ c = ':' := by
  have hall : baseBreakpoint.toList.all isNameChar = true := by decide
  have hbase : ∀ c ∈ baseBreakpoint.toList, isNameChar c := List.all_eq_true.mp hall
  have hqualifier : (∀ c ∈ (breakpointQualifier breakpoint).toList, isNameChar c ∨ c = ':') ↔
      ∀ c ∈ breakpoint.toList, isNameChar c ∨ c = ':' := by
    unfold breakpointQualifier
    split
    · next heq => exact iff_of_true (by simp) fun c hc => .inl (hbase c (heq ▸ hc))
    · simp [String.toList_append, or_imp, forall_and]
  have hstem : ∀ c ∈ classStem category side, isNameChar c ∨ c = ':' :=
    fun c hc => .inl (isNameChar_classStem category side c hc)
  have hhyphen : isNameChar '-' ∨ '-' = ':' := by decide
  rw [toList_className, List.forall_mem_append, List.forall_mem_append, List.forall_mem_cons,
    List.forall_mem_append, hqualifier]
  exact and_congr_right fun _ => (and_iff_right hstem).trans (and_iff_right hhyphen)

/-- A class name begins with a digit exactly if its breakpoint does. -/
theorem beginsWithDigit_className (category : StyleCategory) (breakpoint : String) (side : Side)
    (size : String) :
    BeginsWithDigit (className category.stem breakpoint side size).toList ↔
      BeginsWithDigit breakpoint.toList := by
  rw [toList_className, breakpointQualifier]
  split
  · next heq =>
    rw [heq]
    cases category <;> simp [BeginsWithDigit, classStem, StyleCategory.stem, baseBreakpoint]
  · rw [String.toList_append]
    cases breakpoint.toList <;> simp [BeginsWithDigit]

/-- The selector of a class is read as that class exactly if the breakpoint does not begin with a
digit, and the breakpoint and the size have no character but letters, digits, hyphens, underscores
and colons. -/
theorem selectedClass?_className_iff (category : StyleCategory) (breakpoint : String) (side : Side)
    (size : String) :
    selectedClass? ("." ++ escapeSelector (className category.stem breakpoint side size)) =
        some (className category.stem breakpoint side size) ↔
      ¬BeginsWithDigit breakpoint.toList ∧
        ∀ c ∈ breakpoint.toList ++ size.toList, isNameChar c ∨ c = ':' := by
  have hne : className category.stem breakpoint side size ≠ "" := by
    intro hnil
    have hchars := toList_className category breakpoint side size
    simp [hnil] at hchars
  rw [selectedClass?_escapeSelector hne, beginsWithDigit_className, forall_mem_className]

/-- The selector for padding of the size `0.5` is not read as its class. -/
theorem selectedClass?_ne_half :
    selectedClass?
        ("." ++ escapeSelector (className StyleCategory.padding.stem baseBreakpoint .all "0.5")) ≠
      some (className StyleCategory.padding.stem baseBreakpoint .all "0.5") := by
  decide

end StyleTokens
