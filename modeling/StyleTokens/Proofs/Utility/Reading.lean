import StyleTokens.Proofs.ClassName.Distinct
import StyleTokens.Proofs.Text.Words
import StyleTokens.Proofs.Utility.Scale
import StyleTokens.Utility.Sheet
import Mathlib.Order.WithBot

/-!
# Reading a utility sheet

A stylesheet is read from left to right, character by character: a brace that opens ends a selector
or the condition of a media query, a brace that closes ends a block or a media query. Reading the
sheet of utility rules gives back its rules, each with the width from which on it is active.
-/

namespace StyleTokens

/-- A rule as it is read. -/
structure StyleRule where
  /-- The width in pixels from which on it is active; `⊥` at every width. -/
  leastWidth : WithBot Nat
  /-- The class that it styles. -/
  className : String
  /-- Its declarations: a property and a value each. -/
  declarations : List (String × String)

namespace StyleRule

/-- A selector in which every escaped colon has become a colon. -/
def unescaped : List Char → List Char
  | '\\' :: ':' :: rest => ':' :: unescaped rest
  | c :: rest => c :: unescaped rest
  | [] => []

/-- The class that a selector names behind its dot. -/
def classOf (selector : List Char) : String := String.ofList (unescaped (selector.drop 1))

/-- The declarations of a block as texts. A declaration ends with a semicolon in front of white
space: other semicolons belong to its value. -/
def declarationTexts (current : List Char) : List Char → List (List Char)
  | [] => if current.all Text.isBlank then [] else [current]
  | c :: rest =>
    if c = ';' ∧ rest.head?.all Text.isBlank then current :: declarationTexts [] rest
    else declarationTexts (current ++ [c]) rest

/-- A declaration: the property in front of the first colon, and the value behind it. -/
def declarationOf (text : List Char) : String × String :=
  (String.ofList (Text.trim (text.takeWhile (· != ':'))),
    String.ofList (Text.trim ((text.dropWhile (· != ':')).drop 1)))

/-- The number of pixels in the condition of a media query. -/
def leastWidth? (prelude : List Char) : Option Nat :=
  let opening := "@media (min-width: ".toList
  let width := prelude.drop opening.length
  if opening.isPrefixOf prelude && width.dropWhile Char.isDigit == "px)".toList then
    some (ofDigits (width.takeWhile Char.isDigit))
  else none

/-- What has been read of a sheet. -/
structure Progress where
  /-- The rules that were read. -/
  rules : List StyleRule
  /-- The width of the media query that is open; `⊥` outside of one. -/
  leastWidth : WithBot Nat
  /-- The selector whose block is open, if one is. -/
  selector : Option (List Char)
  /-- The text since the last brace. -/
  pending : List Char

namespace Progress

/-- Nothing has been read. -/
def start : Progress := ⟨[], ⊥, none, []⟩

/-- An opening brace: it begins a media query or the block of a selector. -/
def openBrace (progress : Progress) : Progress :=
  let prelude := Text.trim progress.pending
  match leastWidth? prelude with
  | some width => { progress with leastWidth := width, pending := [] }
  | none => { progress with selector := some prelude, pending := [] }

/-- A closing brace: it ends the block that is open, or else the media query. -/
def closeBrace (progress : Progress) : Progress :=
  match progress.selector with
  | some selector =>
    { progress with
      rules := progress.rules ++ [⟨progress.leastWidth, classOf selector,
        (declarationTexts [] progress.pending).map declarationOf⟩]
      selector := none
      pending := [] }
  | none => { progress with leastWidth := ⊥, pending := [] }

/-- Reads one character. -/
def read (progress : Progress) (c : Char) : Progress :=
  if c = '\x7b' then progress.openBrace
  else if c = '\x7d' then progress.closeBrace
  else { progress with pending := progress.pending ++ [c] }

end Progress

/-- The rules of a sheet, in order. -/
def ofSheet (sheet : String) : List StyleRule :=
  (sheet.toList.foldl Progress.read .start).rules

/-- An escaped class name begins with no colon. -/
private theorem head?_escaped (name : List Char) :
    (name.flatMap fun c => if c = ':' then ['\\', ':'] else [c]).head? ≠ some ':' := by
  cases name with
  | nil => simp
  | cons c name =>
    by_cases hcolon : c = ':'
    · simp [hcolon]
    · simp [hcolon]

/-- An escaped class name is read with the colons that it had. -/
theorem unescaped_escaped (name : List Char) :
    unescaped (name.flatMap fun c => if c = ':' then ['\\', ':'] else [c]) = name := by
  induction name with
  | nil => rfl
  | cons c name ih =>
    rw [List.flatMap_cons]
    by_cases hcolon : c = ':'
    · simp [hcolon, unescaped, ih]
    · rw [if_neg hcolon, List.singleton_append, unescaped, ih]
      rintro rest - hrest
      exact head?_escaped name (by rw [hrest]; rfl)

/-- A selector without a backslash in front of an escaped class name. -/
theorem unescaped_append {front : List Char} (hfront : '\\' ∉ front) (text : List Char) :
    unescaped (front ++ text) = front ++ unescaped text := by
  induction front with
  | nil => rfl
  | cons c front ih =>
    simp only [List.mem_cons, not_or] at hfront
    rw [List.cons_append, unescaped, ih hfront.2, List.cons_append]
    rintro rest rfl
    exact absurd rfl hfront.1

/-- No semicolon of a text ends a declaration. -/
def Unended : List Char → Prop
  | [] => True
  | c :: rest => (c = ';' → ∃ d ∈ rest.head?, Text.isBlank d = false) ∧ Unended rest

/-- A declaration is read up to the semicolon that ends it. -/
theorem declarationTexts_append {text : List Char} (htext : Unended text)
    (current : List Char) {rest : List Char} (hrest : rest.head?.all Text.isBlank = true) :
    declarationTexts current (text ++ ';' :: rest) =
      (current ++ text) :: declarationTexts [] rest := by
  induction text generalizing current with
  | nil =>
    rw [List.nil_append, declarationTexts, if_pos, List.append_nil]
    exact ⟨rfl, hrest⟩
  | cons c text ih =>
    rw [List.cons_append, declarationTexts, if_neg, ih htext.2, List.append_assoc,
      List.singleton_append]
    rintro ⟨rfl, hblank⟩
    obtain ⟨d, hd, hdblank⟩ := htext.1 rfl
    cases text with
    | nil => cases hd
    | cons e text =>
      cases hd
      simp [hdblank] at hblank

/-- A text without semicolons ends no declaration, and neither does one behind it that ends
none. -/
theorem unended_append {front text : List Char} (hfront : ';' ∉ front) (htext : Unended text) :
    Unended (front ++ text) := by
  induction front with
  | nil => exact htext
  | cons c front ih =>
    simp only [List.mem_cons, not_or] at hfront
    exact ⟨fun hc => absurd hc.symm hfront.1, ih hfront.2⟩

/-- Where no white space follows, semicolons end no declaration. -/
theorem unended_append_of_forall {front text : List Char}
    (hfront : ∀ c ∈ front, Text.isBlank c = false)
    (hnext : ∃ d ∈ text.head?, Text.isBlank d = false) (htext : Unended text) :
    Unended (front ++ text) := by
  induction front with
  | nil => exact htext
  | cons c front ih =>
    refine ⟨fun _ => ?_, ih fun d hd => hfront d (List.mem_cons_of_mem _ hd)⟩
    cases front with
    | nil => exact hnext
    | cons d front => exact ⟨d, rfl, hfront d (by simp)⟩

/-- A declaration that is written is read: its property and its value. -/
theorem declarationOf_written {property value : List Char}
    (hproperty : ∀ c ∈ property, Text.isBlank c = false) (hcolon : ':' ∉ property)
    (hvalue : Text.Trimmed value) :
    declarationOf (' ' :: property ++ ':' :: ' ' :: value) =
      (String.ofList property, String.ofList value) := by
  have hstop : ∀ c ∈ ' ' :: property, (c != ':') = true := by
    intro c hc
    rcases List.mem_cons.mp hc with rfl | hmem
    · decide
    · simpa using fun heq : c = ':' => hcolon (heq ▸ hmem)
  have hname : Text.trim (' ' :: property) = property := by
    simpa using @Text.trim_append [' '] _ [] (by simp; decide) (by simp)
      (Text.trimmed_of_forall hproperty)
  have hrest : Text.trim (' ' :: value) = value := by
    simpa using @Text.trim_append [' '] _ [] (by simp; decide) (by simp) hvalue
  unfold declarationOf
  rw [List.takeWhile_append_of_pos hstop, List.dropWhile_append_of_pos hstop]
  simp [hname, hrest]

end StyleRule

namespace UtilityRule

/-- The parts of a rule can be told apart where they stand in a sheet. -/
structure Legible (rule : UtilityRule) : Prop where
  /-- The marker is written as it is. -/
  marker : ∀ marker ∈ rule.marker, '\\' ∉ marker.toList
  /-- The selector has neither white space nor braces. -/
  selector : ∀ c ∈ rule.selector.toList, Text.isBlank c = false ∧ c ≠ '\x7b' ∧ c ≠ '\x7d'
  /-- A property has none of them either, nor a colon or a semicolon. -/
  properties : ∀ property ∈ rule.properties, ∀ c ∈ property.toList,
    Text.isBlank c = false ∧ c ≠ ':' ∧ c ≠ ';' ∧ c ≠ '\x7b' ∧ c ≠ '\x7d'
  /-- There is something to declare. -/
  declared : rule.properties ≠ []
  /-- No white space stands around the value. -/
  trimmed : Text.Trimmed rule.value.toList
  /-- The value ends no declaration. -/
  unended : StyleRule.Unended rule.value.toList
  /-- The value has no braces. -/
  braces : '\x7b' ∉ rule.value.toList ∧ '\x7d' ∉ rule.value.toList

/-- The class in a rule's selector, behind the marker and a dot if there is one. -/
def classText (rule : UtilityRule) : String :=
  (match rule.marker with
    | some marker => marker ++ "."
    | none => "") ++ rule.className

/-- A rule of the sheet as it is read where rules are active from a width on. -/
def asRead (leastWidth : WithBot Nat) (rule : UtilityRule) : StyleRule :=
  ⟨leastWidth, rule.classText, rule.properties.map fun property => (property, rule.value)⟩

/-- The class that is read in a rule's selector. -/
theorem classOf_selector {rule : UtilityRule} (h : ∀ marker ∈ rule.marker, '\\' ∉ marker.toList) :
    StyleRule.classOf rule.selector.toList = rule.classText := by
  have hname : StyleRule.unescaped (escapeSelector rule.className).toList =
      rule.className.toList := by
    rw [escapeSelector, String.toList_ofList, StyleRule.unescaped_escaped]
  apply String.toList_injective
  unfold StyleRule.classOf selector classText
  cases hmarker : rule.marker with
  | none => simp [String.toList_append, hname]
  | some marker =>
    have hplain : '\\' ∉ marker.toList ++ ['.'] := by simp [h marker hmarker]
    have hread := StyleRule.unescaped_append hplain (escapeSelector rule.className).toList
    simpa [String.toList_append, hname] using hread

/-- Texts joined by spaces, with a space in front of them all. -/
theorem toList_intercalate_space {texts : List String} (h : texts ≠ []) :
    ' ' :: (" ".intercalate texts).toList = texts.flatMap fun text => ' ' :: text.toList := by
  induction texts with
  | nil => exact absurd rfl h
  | cons text texts ih =>
    cases texts with
    | nil => simp
    | cons next texts =>
      rw [List.flatMap_cons, ← ih (by simp), String.intercalate_cons_cons]
      simp [String.toList_append]

/-- The characters of a rule's body, with a space in front. -/
theorem toList_body {rule : UtilityRule} (h : rule.properties ≠ []) :
    ' ' :: rule.body.toList = rule.properties.flatMap fun property =>
      (' ' :: property.toList ++ ':' :: ' ' :: rule.value.toList) ++ [';'] := by
  unfold body
  rw [toList_intercalate_space (by simpa using h), List.flatMap_map]
  simp [String.toList_append]

/-- There are no braces in a rule's body if there are none in its properties and its value. -/
theorem brace_notMem_body {rule : UtilityRule} (hdeclared : rule.properties ≠ [])
    (hproperties : ∀ property ∈ rule.properties, ∀ c ∈ property.toList, c ≠ '\x7b' ∧ c ≠ '\x7d')
    (hvalue : '\x7b' ∉ rule.value.toList ∧ '\x7d' ∉ rule.value.toList) :
    ∀ c ∈ ' ' :: rule.body.toList ++ [' '], c ≠ '\x7b' ∧ c ≠ '\x7d' := by
  rw [toList_body hdeclared]
  intro c hc
  simp only [List.mem_append, List.mem_flatMap, List.mem_cons, List.not_mem_nil, or_false] at hc
  rcases hc with ⟨property, hproperty, ((rfl | hmem) | rfl | rfl | hmem) | rfl⟩ | rfl
  · decide
  · exact hproperties property hproperty c hmem
  · decide
  · decide
  · exact ⟨fun heq => hvalue.1 (heq ▸ hmem), fun heq => hvalue.2 (heq ▸ hmem)⟩
  · decide
  · decide

/-- A selector begins with a dot. -/
theorem head?_selector (rule : UtilityRule) : rule.selector.toList.head? = some '.' := by
  unfold selector
  cases rule.marker <;> simp [String.toList_append]

/-- The declarations in the block of a rule. -/
theorem declarations_block {rule : UtilityRule} (h : rule.Legible) :
    (StyleRule.declarationTexts [] (' ' :: rule.body.toList ++ [' '])).map
        StyleRule.declarationOf =
      rule.properties.map fun property => (property, rule.value) := by
  rw [toList_body h.declared]
  have hproperties := h.properties
  generalize rule.properties = properties at hproperties
  induction properties with
  | nil => rfl
  | cons property properties ih =>
    have hproperty := hproperties property (by simp)
    have hcolon : ':' ∉ property.toList := fun hmem => (hproperty _ hmem).2.1 rfl
    have hsemicolon : ';' ∉ ' ' :: property.toList ++ [':', ' '] := by
      simpa using fun hmem => (hproperty _ hmem).2.2.1 rfl
    have hunended : StyleRule.Unended
        (' ' :: property.toList ++ ':' :: ' ' :: rule.value.toList) := by
      simpa using StyleRule.unended_append hsemicolon h.unended
    have hnext : ((properties.flatMap fun property =>
        (' ' :: property.toList ++ ':' :: ' ' :: rule.value.toList) ++ [';']) ++
          [' ']).head?.all Text.isBlank = true := by
      cases properties <;> rfl
    rw [List.flatMap_cons, List.append_assoc, List.append_assoc, List.singleton_append,
      StyleRule.declarationTexts_append hunended [] hnext, List.nil_append, List.map_cons,
      ih fun other hother => hproperties other (List.mem_cons_of_mem _ hother),
      StyleRule.declarationOf_written (fun c hc => (hproperty c hc).1) hcolon h.trimmed]
    simp

end UtilityRule

namespace StyleRule

/-- Where white space stands before it, a text is read as the given rules, up to white space that
stands behind it. -/
def Reads (leastWidth : WithBot Nat) (text : List Char) (rules : List StyleRule) : Prop :=
  ∀ before pending, (∀ c ∈ pending, Text.isBlank c = true) →
    ∃ rest, (∀ c ∈ rest, Text.isBlank c = true) ∧
      text.foldl Progress.read ⟨before, leastWidth, none, pending⟩ =
        ⟨before ++ rules, leastWidth, none, rest⟩

/-- Characters other than braces are kept until the next brace. -/
theorem foldl_read_plain {text : List Char} (h : ∀ c ∈ text, c ≠ '\x7b' ∧ c ≠ '\x7d')
    (progress : Progress) :
    text.foldl Progress.read progress =
      { progress with pending := progress.pending ++ text } := by
  induction text generalizing progress with
  | nil => simp
  | cons c text ih =>
    obtain ⟨hopen, hclose⟩ := h c (by simp)
    rw [List.foldl_cons, ih fun d hd => h d (List.mem_cons_of_mem _ hd)]
    simp [Progress.read, hopen, hclose]

/-- White space is no brace. -/
theorem brace_ne_of_isBlank {c : Char} (h : Text.isBlank c = true) : c ≠ '\x7b' ∧ c ≠ '\x7d' := by
  constructor <;> rintro rfl <;> exact absurd h (by decide)

/-- A brace behind a selector opens its block. -/
theorem Progress.read_open_selector {progress : Progress} {selector : List Char}
    (htrim : Text.trim progress.pending = selector) (hwidth : leastWidth? selector = none) :
    progress.read '\x7b' = { progress with selector := some selector, pending := [] } := by
  change progress.openBrace = _
  simp only [openBrace, htrim, hwidth]

/-- A brace behind the condition of a media query opens it. -/
theorem Progress.read_open_media {progress : Progress} {prelude : List Char} {width : Nat}
    (htrim : Text.trim progress.pending = prelude) (hwidth : leastWidth? prelude = some width) :
    progress.read '\x7b' = { progress with leastWidth := (width : WithBot Nat), pending := [] } := by
  change progress.openBrace = _
  simp only [openBrace, htrim, hwidth]

/-- White space is read as no rules. -/
theorem reads_blank {leastWidth : WithBot Nat} {text : List Char}
    (h : ∀ c ∈ text, Text.isBlank c = true) : Reads leastWidth text [] := by
  intro before pending hpending
  have hplain : ∀ c ∈ text, c ≠ '\x7b' ∧ c ≠ '\x7d' := fun c hc => brace_ne_of_isBlank (h c hc)
  refine ⟨pending ++ text, ?_, by rw [foldl_read_plain hplain, List.append_nil]⟩
  intro c hc
  exact (List.mem_append.mp hc).elim (hpending c) (h c)

/-- Texts one behind the other are read one after the other. -/
theorem Reads.append {leastWidth : WithBot Nat} {front back : List Char}
    {rules rules' : List StyleRule} (hfront : Reads leastWidth front rules)
    (hback : Reads leastWidth back rules') :
    Reads leastWidth (front ++ back) (rules ++ rules') := by
  intro before pending hpending
  obtain ⟨rest, hrest, hread⟩ := hfront before pending hpending
  obtain ⟨rest', hrest', hread'⟩ := hback (before ++ rules) rest hrest
  refine ⟨rest', hrest', ?_⟩
  rw [List.foldl_append, hread, hread', List.append_assoc]

/-- Texts joined by white space are read one after the other. -/
theorem reads_intercalate (leastWidth : WithBot Nat) (separator : String)
    (hseparator : ∀ c ∈ separator.toList, Text.isBlank c = true) {α : Type} (things : List α)
    (text : α → String) (rules : α → List StyleRule)
    (h : ∀ thing ∈ things, Reads leastWidth (text thing).toList (rules thing)) :
    Reads leastWidth (separator.intercalate (things.map text)).toList (things.flatMap rules) := by
  induction things with
  | nil => exact reads_blank (by simp)
  | cons thing things ih =>
    have hthing := h thing (by simp)
    have hrest := ih fun other hother => h other (List.mem_cons_of_mem _ hother)
    cases things with
    | nil => simpa using hthing
    | cons next things =>
      have hjoined := hthing.append ((reads_blank hseparator).append hrest)
      simpa [String.intercalate_cons_cons, String.toList_append] using hjoined

/-- Reading a selector and its block. -/
theorem reads_block (leastWidth : WithBot Nat) {front selector block : List Char}
    (hfront : ∀ c ∈ front, Text.isBlank c = true)
    (hselector : ∀ c ∈ selector, Text.isBlank c = false ∧ c ≠ '\x7b' ∧ c ≠ '\x7d')
    (hdot : selector.head? = some '.') (hblock : ∀ c ∈ block, c ≠ '\x7b' ∧ c ≠ '\x7d') :
    Reads leastWidth (front ++ selector ++ [' '] ++ '\x7b' :: (block ++ ['\x7d']))
      [⟨leastWidth, classOf selector, (declarationTexts [] block).map declarationOf⟩] := by
  intro before pending hpending
  have hplain : ∀ c ∈ front ++ selector ++ [' '], c ≠ '\x7b' ∧ c ≠ '\x7d' := by
    intro c hc
    simp only [List.mem_append, List.mem_singleton] at hc
    rcases hc with (hmem | hmem) | rfl
    · exact brace_ne_of_isBlank (hfront c hmem)
    · exact (hselector c hmem).2
    · decide
  have htrim : Text.trim (pending ++ (front ++ selector ++ [' '])) = selector := by
    have hblank : ∀ c ∈ pending ++ front, Text.isBlank c = true := by
      intro c hc
      exact (List.mem_append.mp hc).elim (hpending c) (hfront c)
    have h := @Text.trim_append _ _ [' '] hblank (by simp; decide)
      (Text.trimmed_of_forall fun c hc => (hselector c hc).1)
    simpa using h
  have hwidth : leastWidth? selector = none := by
    cases selector with
    | nil => cases hdot
    | cons c selector =>
      cases hdot
      simp [leastWidth?]
  refine ⟨[], by simp, ?_⟩
  rw [List.foldl_append, foldl_read_plain hplain, List.foldl_cons, List.foldl_append]
  rw [Progress.read_open_selector htrim hwidth, foldl_read_plain hblock]
  simp [Progress.read, Progress.closeBrace]

/-- The number of pixels that is written in the condition of a media query is read. -/
theorem leastWidth?_written (width : Nat) :
    leastWidth? ("@media (min-width: ".toList ++ digits width ++ "px)".toList) = some width := by
  have hdigits : ∀ c ∈ digits width, Char.isDigit c = true := fun c => isDigit_of_mem_digits
  unfold leastWidth?
  generalize "@media (min-width: ".toList = opening
  dsimp only
  rw [List.append_assoc, List.drop_left, List.takeWhile_append_of_pos hdigits,
    List.dropWhile_append_of_pos hdigits]
  simp

/-- Reading a media query and the rules inside. -/
theorem reads_media {width : Nat} {body : List Char} {rules : List StyleRule}
    (hbody : Reads width body rules) :
    Reads ⊥ ("@media (min-width: ".toList ++ digits width ++ "px)".toList ++ [' '] ++
      '\x7b' :: (body ++ ['\x7d'])) rules := by
  intro before pending hpending
  have hopening : ∀ c ∈ "@media (min-width: ".toList, c ≠ '\x7b' ∧ c ≠ '\x7d' := by simp
  have hclosing : ∀ c ∈ "px)".toList, c ≠ '\x7b' ∧ c ≠ '\x7d' := by simp
  have hdigit : ∀ c ∈ digits width, c ≠ '\x7b' ∧ c ≠ '\x7d' := by
    intro c hc
    constructor <;> rintro rfl <;> exact absurd (isDigit_of_mem_digits hc) (by decide)
  have hplain : ∀ c ∈ "@media (min-width: ".toList ++ digits width ++ "px)".toList ++ [' '],
      c ≠ '\x7b' ∧ c ≠ '\x7d' := by
    intro c hc
    simp only [List.mem_append] at hc
    rcases hc with ((hmem | hmem) | hmem) | hmem
    · exact hopening c hmem
    · exact hdigit c hmem
    · exact hclosing c hmem
    · rw [List.mem_singleton.mp hmem]
      decide
  have htrim : Text.trim (pending ++
      ("@media (min-width: ".toList ++ digits width ++ "px)".toList ++ [' '])) =
        "@media (min-width: ".toList ++ digits width ++ "px)".toList := by
    have h := @Text.trim_append _ ("@media (min-width: ".toList ++ digits width ++ "px)".toList)
      [' '] hpending (by simp; decide) ⟨by simp; decide, by rw [List.getLast?_append]; simp; decide⟩
    simpa using h
  obtain ⟨rest, hrest, hread⟩ := hbody before [] (by simp)
  refine ⟨[], by simp, ?_⟩
  rw [List.foldl_append, foldl_read_plain hplain, List.foldl_cons, List.foldl_append,
    Progress.read_open_media htrim (leastWidth?_written width), hread]
  simp [Progress.read, Progress.closeBrace]

end StyleRule

/-- A rule on its line is read. -/
theorem UtilityRule.reads_line {leastWidth : WithBot Nat} {rule : UtilityRule}
    (h : rule.Legible) {indent : String} (hindent : ∀ c ∈ indent.toList, Text.isBlank c = true) :
    StyleRule.Reads leastWidth (rule.line indent).toList [rule.asRead leastWidth] := by
  have hblock := StyleRule.reads_block leastWidth hindent h.selector
    rule.head?_selector (brace_notMem_body h.declared
      (fun property hproperty c hc => (h.properties property hproperty c hc).2.2.2) h.braces)
  rw [classOf_selector h.marker, declarations_block h] at hblock
  unfold line
  simpa [String.toList_append, asRead] using hblock

/-- Rules on lines of their own are read in order. -/
theorem reads_lines (leastWidth : WithBot Nat) (indent : String) {rules : List UtilityRule}
    (h : ∀ rule ∈ rules, rule.Legible)
    (hindent : ∀ c ∈ indent.toList, Text.isBlank c = true) :
    StyleRule.Reads leastWidth ("\n".intercalate (rules.map (UtilityRule.line indent))).toList
      (rules.map (UtilityRule.asRead leastWidth)) := by
  have hlines := StyleRule.reads_intercalate leastWidth "\n"
    (by simp; decide) rules (UtilityRule.line indent) (fun rule => [rule.asRead leastWidth])
    fun rule hrule => UtilityRule.reads_line (h rule hrule) hindent
  rwa [← List.map_eq_flatMap] at hlines

/-- The width in pixels from which on the rules of a section are active. -/
def UtilitySection.leastWidth (part : UtilitySection) : WithBot Nat :=
  match part.width with
  | none => ⊥
  | some width => (ofDigits (width.toList.takeWhile Char.isDigit) : Nat)

/-- A section is read as its rules. -/
theorem reads_section {part : UtilitySection}
    (hwidth : ∀ width ∈ part.width, ∃ n : Nat, width = toString n ++ "px")
    (hrules : ∀ rule ∈ part.rules, rule.Legible) :
    StyleRule.Reads ⊥ part.text.toList (part.rules.map (UtilityRule.asRead part.leastWidth)) := by
  cases hpart : part.width with
  | none =>
    simp only [UtilitySection.text, UtilitySection.leastWidth, hpart]
    exact reads_lines ⊥ "" hrules (by simp)
  | some width =>
    obtain ⟨n, rfl⟩ := hwidth width hpart
    have hlines := reads_lines n "    " hrules (by simp; decide)
    have hblank : StyleRule.Reads n ['\n'] [] := StyleRule.reads_blank (by simp; decide)
    have hmedia := StyleRule.reads_media ((hblank.append hlines).append hblank)
    have hleast : part.leastWidth = n := by
      have hdigits : ∀ c ∈ digits n, c.isDigit = true := fun c => isDigit_of_mem_digits
      simp only [UtilitySection.leastWidth, hpart]
      rw [toList_pixels, List.takeWhile_append_of_pos hdigits]
      simp
    rw [hleast, UtilitySection.text, hpart]
    simpa [String.toList_append, Nat.toList_repr, digits] using hmedia

/-- The sheet of sections is read as their rules, in order. -/
theorem ofSheet_utilityText {sections : List UtilitySection}
    (hwidth : ∀ part ∈ sections, ∀ width ∈ part.width, ∃ n : Nat, width = toString n ++ "px")
    (hrules : ∀ part ∈ sections, ∀ rule ∈ part.rules, rule.Legible) :
    StyleRule.ofSheet (utilityText sections) =
      sections.flatMap fun part => part.rules.map (UtilityRule.asRead part.leastWidth) := by
  have hparts := StyleRule.reads_intercalate ⊥ "\n\n"
    (by simp; decide) sections UtilitySection.text
    (fun part => part.rules.map (UtilityRule.asRead part.leastWidth))
    fun part hpart => reads_section (hwidth part hpart) (hrules part hpart)
  have hend : StyleRule.Reads ⊥ "\n".toList [] := StyleRule.reads_blank (by simp; decide)
  obtain ⟨rest, -, hread⟩ := (hparts.append hend) [] [] (by simp)
  unfold StyleRule.ofSheet utilityText StyleRule.Progress.start
  rw [String.toList_append, hread]
  simp

end StyleTokens
