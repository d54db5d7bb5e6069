import StyleTokens.Proofs.Utility.Section

/-!
# The outline of a utility sheet

The outline of a sheet is read brace by brace: what stands in front of an opening brace begins a
media query if it begins with an at sign, and otherwise is the selector of a rule. The outline of
the sheet of sections tells these sections, each with the selectors of its rules in order.
-/

namespace StyleTokens

/-- A section of a sheet as it is read. -/
structure SheetSection where
  /-- The media query that the section stands in, if it stands in one. -/
  query : Option String
  /-- The selectors of its rules. -/
  selectors : List String
  deriving DecidableEq

/-- What has been read of a sheet. -/
structure Outline where
  /-- The sections that are over. -/
  earlier : List SheetSection
  /-- The section that is read. -/
  current : SheetSection

namespace Outline

/-- Nothing has been read. -/
def start : Outline := ⟨[], ⟨none, []⟩⟩

/-- The sections that were read; there is none without rules outside of media queries. -/
def sections (outline : Outline) : List SheetSection :=
  if outline.current = ⟨none, []⟩ then outline.earlier else outline.earlier ++ [outline.current]

/-- The rules of some selectors are read. -/
def add (outline : Outline) (selectors : List String) : Outline :=
  { outline with
    current := ⟨outline.current.query, outline.current.selectors ++ selectors⟩ }

/-- A media query begins. -/
def enter (outline : Outline) (query : String) : Outline := ⟨outline.sections, ⟨some query, []⟩⟩

/-- A media query ends. -/
def leave (outline : Outline) : Outline := ⟨outline.sections, ⟨none, []⟩⟩

/-- An outline that is read, and what stands in front of the next brace. -/
structure Reader where
  /-- What has been read. -/
  outline : Outline
  /-- Whether the block of a rule is open. -/
  inBlock : Bool
  /-- The text since the last brace. -/
  pending : List Char

namespace Reader

/-- An opening brace: it begins a media query or the block of a rule. -/
def openBrace (reader : Reader) : Reader :=
  let prelude := Text.trim reader.pending
  if prelude.head? = some '@' then ⟨reader.outline.enter (String.ofList prelude), false, []⟩
  else ⟨reader.outline.add [String.ofList prelude], true, []⟩

/-- A closing brace: it ends the block that is open, or else the media query. -/
def closeBrace (reader : Reader) : Reader :=
  if reader.inBlock then ⟨reader.outline, false, []⟩ else ⟨reader.outline.leave, false, []⟩

/-- Reads one character. -/
def read (reader : Reader) (c : Char) : Reader :=
  if c = '\x7b' then reader.openBrace
  else if c = '\x7d' then reader.closeBrace
  else { reader with pending := reader.pending ++ [c] }

end Reader

/-- The sections of a sheet, in order. -/
def ofSheet (sheet : String) : List SheetSection :=
  (sheet.toList.foldl Reader.read ⟨start, false, []⟩).outline.sections

/-- Selectors are added part by part. -/
theorem add_add (outline : Outline) (selectors more : List String) :
    (outline.add selectors).add more = outline.add (selectors ++ more) := by
  simp [add, List.append_assoc]

/-- Where white space stands before it, a text leads from one outline to another, up to white space
that stands behind it. -/
def Leads (text : List Char) (before after : Outline) : Prop :=
  ∀ pending, (∀ c ∈ pending, Text.isBlank c = true) →
    ∃ rest, (∀ c ∈ rest, Text.isBlank c = true) ∧
      text.foldl Reader.read ⟨before, false, pending⟩ = ⟨after, false, rest⟩

/-- Characters other than braces are kept until the next brace. -/
theorem foldl_read_plain {text : List Char} (h : ∀ c ∈ text, c ≠ '\x7b' ∧ c ≠ '\x7d')
    (reader : Reader) :
    text.foldl Reader.read reader = { reader with pending := reader.pending ++ text } := by
  induction text generalizing reader with
  | nil => simp
  | cons c text ih =>
    obtain ⟨hopen, hclose⟩ := h c (by simp)
    rw [List.foldl_cons, ih fun d hd => h d (List.mem_cons_of_mem _ hd)]
    simp [Reader.read, hopen, hclose]

/-- White space leads nowhere. -/
theorem leads_blank {text : List Char} (h : ∀ c ∈ text, Text.isBlank c = true)
    (outline : Outline) : Leads text outline outline := by
  intro pending hpending
  have hplain : ∀ c ∈ text, c ≠ '\x7b' ∧ c ≠ '\x7d' :=
    fun c hc => StyleRule.brace_ne_of_isBlank (h c hc)
  refine ⟨pending ++ text, ?_, foldl_read_plain hplain _⟩
  intro c hc
  exact (List.mem_append.mp hc).elim (hpending c) (h c)

/-- Texts one behind the other are read one after the other. -/
theorem Leads.append {front back : List Char} {before between after : Outline}
    (hfront : Leads front before between) (hback : Leads back between after) :
    Leads (front ++ back) before after := by
  intro pending hpending
  obtain ⟨middle, hmiddle, hread⟩ := hfront pending hpending
  obtain ⟨rest, hrest, hread'⟩ := hback middle hmiddle
  exact ⟨rest, hrest, by rw [List.foldl_append, hread, hread']⟩

/-- What stands between white space and an opening brace is read as it is. -/
theorem foldl_read_prelude {front prelude : List Char}
    (hfront : ∀ c ∈ front, Text.isBlank c = true) (htrimmed : Text.Trimmed prelude)
    (hprelude : ∀ c ∈ prelude, c ≠ '\x7b' ∧ c ≠ '\x7d') (outline : Outline) :
    ∀ pending, (∀ c ∈ pending, Text.isBlank c = true) →
      (front ++ prelude ++ [' ', '\x7b']).foldl Reader.read ⟨outline, false, pending⟩ =
        if prelude.head? = some '@' then ⟨outline.enter (String.ofList prelude), false, []⟩
        else ⟨outline.add [String.ofList prelude], true, []⟩ := by
  intro pending hpending
  have hplain : ∀ c ∈ front ++ prelude ++ [' '], c ≠ '\x7b' ∧ c ≠ '\x7d' := by
    intro c hc
    simp only [List.mem_append, List.mem_singleton] at hc
    rcases hc with (hmem | hmem) | rfl
    · exact StyleRule.brace_ne_of_isBlank (hfront c hmem)
    · exact hprelude c hmem
    · decide
  have htrim : Text.trim (pending ++ (front ++ prelude ++ [' '])) = prelude := by
    have hblank : ∀ c ∈ pending ++ front, Text.isBlank c = true := by
      intro c hc
      exact (List.mem_append.mp hc).elim (hpending c) (hfront c)
    simpa using @Text.trim_append _ _ [' '] hblank (by simp; decide) htrimmed
  have hsplit : front ++ prelude ++ [' ', '\x7b'] = front ++ prelude ++ [' '] ++ ['\x7b'] := by simp
  rw [hsplit, List.foldl_append, foldl_read_plain hplain]
  simp only [List.foldl_cons, List.foldl_nil, Reader.read, if_true, Reader.openBrace, htrim]

/-- The rule of a selector leads to the outline with that selector. -/
theorem leads_rule {front selector block : List Char} (hfront : ∀ c ∈ front, Text.isBlank c = true)
    (hselector : ∀ c ∈ selector, Text.isBlank c = false ∧ c ≠ '\x7b' ∧ c ≠ '\x7d')
    (hdot : selector.head? = some '.') (hblock : ∀ c ∈ block, c ≠ '\x7b' ∧ c ≠ '\x7d')
    (outline : Outline) :
    Leads (front ++ selector ++ [' ', '\x7b'] ++ (block ++ ['\x7d'])) outline
      (outline.add [String.ofList selector]) := by
  intro pending hpending
  have htrimmed := Text.trimmed_of_forall fun c hc => (hselector c hc).1
  refine ⟨[], by simp, ?_⟩
  rw [List.foldl_append, foldl_read_prelude hfront htrimmed (fun c hc => (hselector c hc).2) outline
    pending hpending, if_neg (by simp [hdot]), List.foldl_append, foldl_read_plain hblock]
  simp [Reader.read, Reader.closeBrace]

/-- A media query leads to the outline with the section inside. -/
theorem leads_media {query body : List Char} {selectors : List String} {outline : Outline}
    (htrimmed : Text.Trimmed query) (hquery : ∀ c ∈ query, c ≠ '\x7b' ∧ c ≠ '\x7d')
    (hat : query.head? = some '@')
    (hbody : Leads body (outline.enter (String.ofList query))
      ((outline.enter (String.ofList query)).add selectors)) :
    Leads (query ++ [' ', '\x7b'] ++ (body ++ ['\x7d'])) outline
      ⟨outline.sections ++ [⟨some (String.ofList query), selectors⟩], ⟨none, []⟩⟩ := by
  intro pending hpending
  obtain ⟨rest, -, hread⟩ := hbody [] (by simp)
  have hprelude := @foldl_read_prelude [] _ (by simp) htrimmed hquery outline pending hpending
  rw [List.nil_append, if_pos hat] at hprelude
  refine ⟨[], by simp, ?_⟩
  rw [List.foldl_append, hprelude, List.foldl_append, hread]
  simp [Reader.read, Reader.closeBrace, leave, sections, enter, add]

end Outline

/-- A rule whose selector and whose block can be told apart. -/
structure UtilityRule.Parted (rule : UtilityRule) : Prop where
  /-- The selector has neither white space nor braces. -/
  selector : ∀ c ∈ rule.selector.toList, Text.isBlank c = false ∧ c ≠ '\x7b' ∧ c ≠ '\x7d'
  /-- The block has no braces. -/
  block : ∀ c ∈ ' ' :: rule.body.toList ++ [' '], c ≠ '\x7b' ∧ c ≠ '\x7d'

/-- The line of a rule leads to the outline with its selector. -/
theorem UtilityRule.leads_line {rule : UtilityRule} (h : rule.Parted) {indent : String}
    (hindent : ∀ c ∈ indent.toList, Text.isBlank c = true) (outline : Outline) :
    Outline.Leads (rule.line indent).toList outline (outline.add [rule.selector]) := by
  have hrule := Outline.leads_rule hindent h.selector rule.head?_selector h.block outline
  unfold line
  simpa [String.toList_append] using hrule

/-- Rules on lines of their own lead to the outline with their selectors. -/
theorem leads_lines {rules : List UtilityRule} (h : ∀ rule ∈ rules, rule.Parted) {indent : String}
    (hindent : ∀ c ∈ indent.toList, Text.isBlank c = true) (outline : Outline) :
    Outline.Leads ("\n".intercalate (rules.map (UtilityRule.line indent))).toList outline
      (outline.add (rules.map UtilityRule.selector)) := by
  induction rules generalizing outline with
  | nil =>
    have hnothing : outline.add [] = outline := by simp [Outline.add]
    have hblank : Outline.Leads [] outline outline := Outline.leads_blank (by simp) outline
    simpa [hnothing] using hblank
  | cons rule rest ih =>
    have hrule := UtilityRule.leads_line (h rule List.mem_cons_self) hindent outline
    specialize ih fun other hother => h other (List.mem_cons_of_mem _ hother)
    cases rest with
    | nil => simpa using hrule
    | cons next rest =>
      have hblank : Outline.Leads ['\n'] (outline.add [rule.selector])
          (outline.add [rule.selector]) := Outline.leads_blank (by simp; decide) _
      have hall := (hrule.append hblank).append (ih (outline.add [rule.selector]))
      rw [Outline.add_add] at hall
      simpa [String.toList_append] using hall

/-- What the prelude of a media query begins with. -/
def queryOpening : List Char := "@media (min-width: ".toList

/-- The prelude of the media query from a width on. -/
def widthQuery (width : String) : String := "@media (min-width: " ++ width ++ ")"

theorem toList_widthQuery (width : String) :
    (widthQuery width).toList = queryOpening ++ (width.toList ++ [')']) :=
  calc (widthQuery width).toList
      = ("@media (min-width: " ++ width).toList ++ ")".toList := String.toList_append
    _ = ("@media (min-width: ".toList ++ width.toList) ++ ")".toList :=
      congrArg (· ++ ")".toList) String.toList_append
    _ = queryOpening ++ (width.toList ++ [')']) := List.append_assoc _ _ _

/-- The prelude of a media query from a width without braces on. -/
theorem plain_widthQuery {width : String} (h : BraceFree width) :
    Text.Trimmed (widthQuery width).toList ∧
      (∀ c ∈ (widthQuery width).toList, c ≠ '\x7b' ∧ c ≠ '\x7d') ∧
      (widthQuery width).toList.head? = some '@' := by
  have hopening : queryOpening.head? = some '@' := rfl
  have hall : (queryOpening.all fun c => c != '\x7b' && c != '\x7d') = true := by decide
  have hplain : ∀ c ∈ queryOpening, c ≠ '\x7b' ∧ c ≠ '\x7d' := by
    simpa only [List.all_eq_true, Bool.and_eq_true, bne_iff_ne] using hall
  rw [toList_widthQuery]
  refine ⟨⟨?_, ?_⟩, ?_, ?_⟩
  · simp [hopening]
    decide
  · rw [← List.append_assoc]
    simp
    decide
  · intro c hc
    simp only [List.mem_append, List.mem_singleton] at hc
    rcases hc with hmem | hmem | rfl
    · exact hplain c hmem
    · exact ⟨fun heq => h.1 (heq ▸ hmem), fun heq => h.2 (heq ▸ hmem)⟩
    · decide
  · simp [hopening]

/-- A section as it is read. -/
def UtilitySection.outlined (part : UtilitySection) : SheetSection :=
  ⟨part.width.map widthQuery, part.rules.map UtilityRule.selector⟩

/-- The text of a breakpoint's section. -/
theorem toList_widthSection (width : String) (rules : List UtilityRule) :
    (UtilitySection.text ⟨some width, rules⟩).toList =
      (widthQuery width).toList ++ [' ', '\x7b'] ++
        ((['\n'] ++ ("\n".intercalate (rules.map (UtilityRule.line "    "))).toList ++ ['\n']) ++
          ['\x7d']) := by
  have htext : UtilitySection.text ⟨some width, rules⟩ = widthQuery width ++ (" \x7b" ++
      ("\n" ++ "\n".intercalate (rules.map (UtilityRule.line "    ")) ++ "\n" ++ "\x7d")) := by
    unfold UtilitySection.text widthQuery
    dsimp only
    rw [show ") \x7b\n" = ")" ++ (" \x7b" ++ "\n") from rfl,
      show "\n\x7d" = "\n" ++ "\x7d" from rfl]
    simp only [String.append_assoc]
  rw [htext]
  simp [String.toList_append]

/-- A breakpoint's section leads to the outline with that section. -/
theorem leads_widthSection {width : String} {rules : List UtilityRule} (hwidth : BraceFree width)
    (hrules : ∀ rule ∈ rules, rule.Parted) (outline : Outline) :
    Outline.Leads (UtilitySection.text ⟨some width, rules⟩).toList outline
      ⟨outline.sections ++ [UtilitySection.outlined ⟨some width, rules⟩], ⟨none, []⟩⟩ := by
  obtain ⟨htrimmed, hplain, hat⟩ := plain_widthQuery hwidth
  have hblank (inside : Outline) : Outline.Leads ['\n'] inside inside :=
    Outline.leads_blank (by simp; decide) inside
  have hindent : ∀ c ∈ "    ".toList, Text.isBlank c = true := by simp; decide
  have hlines := leads_lines hrules hindent (outline.enter (widthQuery width))
  have hbody := ((hblank _).append hlines).append (hblank _)
  have hmedia := Outline.leads_media htrimmed hplain hat (by rwa [String.ofList_toList])
  rw [toList_widthSection]
  rw [String.ofList_toList] at hmedia
  exact hmedia

/-- A section that can be read: its rules are, and the width of its media query is. -/
structure UtilitySection.Parted (part : UtilitySection) : Prop where
  /-- The width has no braces, if there is one. -/
  width : ∀ width ∈ part.width, BraceFree width
  /-- Selectors and blocks can be told apart. -/
  rules : ∀ rule ∈ part.rules, rule.Parted

/-- Sections of breakpoints, with white space in front of each, lead to the outline with these
sections. -/
theorem exists_leads_widthSections {gap : List Char} (hgap : ∀ c ∈ gap, Text.isBlank c = true)
    {parts : List UtilitySection} (hparts : ∀ part ∈ parts, part.Parted)
    (hwidth : ∀ part ∈ parts, part.width.isSome = true) (outline : Outline) :
    ∃ after : Outline, after.sections = outline.sections ++ parts.map UtilitySection.outlined ∧
      Outline.Leads (parts.flatMap fun part => gap ++ part.text.toList) outline after := by
  induction parts generalizing outline with
  | nil => exact ⟨outline, by simp, Outline.leads_blank (by simp) outline⟩
  | cons part rest ih =>
    obtain ⟨width, hsome⟩ := Option.isSome_iff_exists.mp (hwidth part List.mem_cons_self)
    obtain ⟨query, rules⟩ := part
    obtain rfl : query = some width := hsome
    have hpart := hparts _ List.mem_cons_self
    have hsection := leads_widthSection (hpart.width width rfl) hpart.rules outline
    specialize ih (fun other hother => hparts other (List.mem_cons_of_mem _ hother))
      fun other hother => hwidth other (List.mem_cons_of_mem _ hother)
    obtain ⟨after, hsections, hrest⟩ :=
      ih ⟨outline.sections ++ [UtilitySection.outlined ⟨some width, rules⟩], ⟨none, []⟩⟩
    refine ⟨after, ?_, ?_⟩
    · rw [hsections, Outline.sections, if_pos rfl, List.map_cons, List.append_assoc,
        List.singleton_append]
    · rw [List.flatMap_cons]
      exact ((Outline.leads_blank hgap outline).append hsection).append hrest

/-- Texts joined by a separator: the first, and the separator in front of every other. -/
theorem toList_intercalate_cons (separator first : String) (rest : List String) :
    (separator.intercalate (first :: rest)).toList =
      first.toList ++ rest.flatMap fun text => separator.toList ++ text.toList := by
  induction rest generalizing first with
  | nil => simp
  | cons next rest ih =>
    rw [String.intercalate_cons_cons, String.toList_append, ih, String.toList_append,
      List.flatMap_cons]
    simp only [List.append_assoc]

/-- The sheet of sections that can be read is read as these, if the first of them is that of all
widths and has rules, and the others are those of breakpoints. -/
theorem outline_utilityText {rules : List UtilityRule} {parts : List UtilitySection}
    (hrules : ∀ rule ∈ rules, rule.Parted) (hne : rules ≠ [])
    (hparts : ∀ part ∈ parts, part.Parted) (hwidth : ∀ part ∈ parts, part.width.isSome = true) :
    Outline.ofSheet (utilityText (⟨none, rules⟩ :: parts)) =
      (⟨none, rules⟩ :: parts).map UtilitySection.outlined := by
  have hbase : (Outline.start.add (rules.map UtilityRule.selector)).sections =
      [UtilitySection.outlined ⟨none, rules⟩] := by
    simp [Outline.sections, Outline.start, Outline.add, UtilitySection.outlined, hne]
  have hlines : Outline.Leads (UtilitySection.text ⟨none, rules⟩).toList Outline.start
      (Outline.start.add (rules.map UtilityRule.selector)) :=
    leads_lines hrules (by simp) Outline.start
  have hgap : ∀ c ∈ "\n\n".toList, Text.isBlank c = true := by simp; decide
  have hend : ∀ c ∈ "\n".toList, Text.isBlank c = true := by simp; decide
  obtain ⟨after, hsections, hrest⟩ := exists_leads_widthSections hgap hparts hwidth
    (Outline.start.add (rules.map UtilityRule.selector))
  obtain ⟨pending, -, hread⟩ :=
    ((hlines.append hrest).append (Outline.leads_blank hend after)) [] (by simp)
  have htext : (utilityText (⟨none, rules⟩ :: parts)).toList =
      (UtilitySection.text ⟨none, rules⟩).toList ++
        (parts.flatMap fun part => "\n\n".toList ++ part.text.toList) ++ "\n".toList := by
    rw [utilityText, String.toList_append, List.map_cons, toList_intercalate_cons, List.flatMap_map]
  rw [Outline.ofSheet, htext, hread, hsections, hbase]
  rfl

end StyleTokens
