import StyleTokens.Proofs.Dialogue
import StyleTokens.Proofs.Preset.Markup

/-!
# Reading a stylesheet of presets back

The stylesheet of loaded presets can be read back line by line: a line that begins with four
spaces is a declaration, one that begins with a dot is the head of a rule. So the text tells which
rules it was written from, whatever stands in the values, as long as no value has a line feed.
-/

namespace StyleTokens

/-- A line of a stylesheet of presets, as it is read. -/
inductive SheetLine where
  /-- The head of the rule of a preset. -/
  | head (id : String)
  /-- A declaration. -/
  | declaration (declaration : Declaration)
  /-- The end of a rule, or the blank line behind it. -/
  | filler

/-- A declaration behind the four spaces in front of it: a property has no colon, and behind its
colon there is a space. -/
def readDeclaration (text : List Char) : Declaration :=
  ⟨String.ofList (text.takeWhile (· != ':')),
    String.ofList ((text.dropWhile (· != ':')).drop 2).dropLast⟩

/-- What stands between the dot of a preset's selector and the id. -/
def selectorStem : List Char := "has-type-preset-".toList

/-- Reads a line. -/
def readLine : List Char → SheetLine
  | ' ' :: ' ' :: ' ' :: ' ' :: text => .declaration (readDeclaration text)
  | '.' :: text => .head (String.ofList (text.drop selectorStem.length).dropLast.dropLast)
  | _ => .filler

/-- The declarations in front of the first head of a rule, and the rules: each head with the
declarations up to the next one. -/
def collectRules : List SheetLine → List Declaration × Keyed (List Declaration)
  | [] => ([], [])
  | .head id :: rest => ([], (id, (collectRules rest).1) :: (collectRules rest).2)
  | .declaration declaration :: rest =>
    (declaration :: (collectRules rest).1, (collectRules rest).2)
  | .filler :: rest => collectRules rest

/-- The rules that a stylesheet of presets was written from. -/
def readSheet (css : String) : Keyed (List Declaration) :=
  (collectRules ((css.toList.splitOn '\n').map readLine)).2

/-- The rules that presets give: their ids with the declarations that are left of their properties,
unless none is left. -/
def survivingRules (presets : Keyed Preset) : Except Fault (Keyed (List Declaration)) :=
  (presets.mapM fun entry =>
    (declarations entry.2.properties).map fun lines => (entry.1, lines)).map
      (List.filter fun rule => !rule.2.isEmpty)

/-- The lines of a rule. -/
def ruleLines (rule : String × List Declaration) : List String :=
  (presetSelector rule.1 ++ " \x7b") :: (rule.2.map Declaration.line ++ ["\x7d"])

/-- The lines of rules, with a blank line between rules. -/
def sheetLines : Keyed (List Declaration) → List String
  | [] => []
  | [rule] => ruleLines rule
  | rule :: next :: rest => ruleLines rule ++ "" :: sheetLines (next :: rest)

/-- The stylesheet of the given rules. -/
def sheetOfRules (rules : Keyed (List Declaration)) : String :=
  "\n\n".intercalate (rules.map fun rule => ruleBlock (presetSelector rule.1) rule.2)

/-- Lines are joined part by part. -/
theorem intercalate_append {first second : List String} (separator : String) (hfirst : first ≠ [])
    (hsecond : second ≠ []) :
    separator.intercalate (first ++ second) =
      separator.intercalate first ++ separator ++ separator.intercalate second := by
  induction first with
  | nil => exact absurd rfl hfirst
  | cons line rest ih =>
    cases rest with
    | nil =>
      obtain ⟨next, more, rfl⟩ := List.exists_cons_of_ne_nil hsecond
      rw [List.singleton_append, String.intercalate_cons_cons, String.intercalate_singleton]
    | cons next more =>
      rw [List.cons_append, List.cons_append, String.intercalate_cons_cons,
        String.intercalate_cons_cons, ← List.cons_append, ih (List.cons_ne_nil _ _)]
      simp only [String.append_assoc]

theorem ruleLines_ne_nil (rule : String × List Declaration) : ruleLines rule ≠ [] :=
  List.cons_ne_nil _ _

theorem sheetLines_ne_nil {rules : Keyed (List Declaration)} (h : rules ≠ []) :
    sheetLines rules ≠ [] := by
  unfold sheetLines
  split
  · exact absurd rfl h
  · exact ruleLines_ne_nil _
  · exact List.append_ne_nil_of_left_ne_nil (ruleLines_ne_nil _) _

/-- A rule with a declaration is its lines. -/
theorem ruleBlock_eq_intercalate {rule : String × List Declaration} (hlines : rule.2 ≠ []) :
    ruleBlock (presetSelector rule.1) rule.2 = "\n".intercalate (ruleLines rule) := by
  have hbody : rule.2.map Declaration.line ≠ [] := by simpa using hlines
  unfold ruleBlock ruleLines
  rw [← List.singleton_append, intercalate_append "\n" (List.cons_ne_nil _ _) (by simp),
    intercalate_append "\n" hbody (List.cons_ne_nil _ _)]
  simp [String.append_assoc]

/-- The stylesheet of rules that all have a declaration is their lines. -/
theorem sheetOfRules_eq_intercalate {rules : Keyed (List Declaration)}
    (hrules : ∀ rule ∈ rules, rule.2 ≠ []) :
    sheetOfRules rules = "\n".intercalate (sheetLines rules) := by
  unfold sheetOfRules
  fun_induction sheetLines rules with
  | case1 => rfl
  | case2 rule => simpa using ruleBlock_eq_intercalate (hrules rule List.mem_cons_self)
  | case3 rule next rest ih =>
    specialize ih fun other hother => hrules other (List.mem_cons_of_mem _ hother)
    obtain ⟨line, lines, hlines⟩ :=
      List.exists_cons_of_ne_nil (sheetLines_ne_nil (List.cons_ne_nil next rest))
    rw [List.map_cons] at ih
    rw [List.map_cons, List.map_cons, String.intercalate_cons_cons, ih,
      ruleBlock_eq_intercalate (hrules rule List.mem_cons_self),
      intercalate_append "\n" (ruleLines_ne_nil rule) (List.cons_ne_nil _ _), hlines,
      String.intercalate_cons_cons, show "\n\n" = "\n" ++ "\n" from rfl]
    simp only [String.append_assoc, String.empty_append]

/-- A declaration whose property has none but the characters of one, and whose value has no line
feed. -/
structure Declaration.IsOneLine (declaration : Declaration) : Prop where
  /-- The property has the characters of one. -/
  property : ∀ c ∈ declaration.property.toList, isPropertyChar c = true
  /-- The value has no line feed. -/
  value : '\n' ∉ declaration.value.toList

/-- A character that stands in no property is not in that of such a declaration. -/
theorem Declaration.IsOneLine.notMem_property {declaration : Declaration}
    (h : declaration.IsOneLine) {c : Char} (hc : isPropertyChar c = false) :
    c ∉ declaration.property.toList := fun hmem => by
  rw [h.property c hmem] at hc
  cases hc

/-- The line of such a declaration is one line. -/
theorem Declaration.IsOneLine.newline_notMem {declaration : Declaration}
    (h : declaration.IsOneLine) : '\n' ∉ declaration.line.toList := by
  have hproperty : '\n' ∉ declaration.property.toList := h.notMem_property (by decide)
  unfold Declaration.line
  simp [String.toList_append, hproperty, h.value]

/-- The line of a declaration is read as this declaration. -/
theorem readLine_line {declaration : Declaration} (h : declaration.IsOneLine) :
    readLine declaration.line.toList = .declaration declaration := by
  have hproperty : ∀ c ∈ declaration.property.toList, (c != ':') = true := fun c hc =>
    bne_iff_ne.mpr fun heq => h.notMem_property (by decide) (heq ▸ hc)
  have hline : declaration.line.toList = ' ' :: ' ' :: ' ' :: ' ' ::
      (declaration.property.toList ++ ':' :: ' ' :: (declaration.value.toList ++ [';'])) := by
    simp [Declaration.line, String.toList_append]
  rw [hline, readLine, readDeclaration, List.takeWhile_append_of_pos hproperty,
    List.dropWhile_append_of_pos hproperty]
  simp

theorem toList_presetSelector (id : String) :
    (presetSelector id).toList = '.' :: (selectorStem ++ id.toList) := by
  have hstem : ".has-type-preset-".toList = '.' :: selectorStem := rfl
  have hparts : (presetSelector id).toList = ".has-type-preset-".toList ++ id.toList :=
    String.toList_append
  exact hparts.trans (congrArg (· ++ id.toList) hstem)

/-- The head of a rule is read as such. -/
theorem readLine_head (id : String) :
    readLine (presetSelector id ++ " \x7b").toList = .head id := by
  rw [String.toList_append, toList_presetSelector, List.cons_append, List.append_assoc, readLine,
    List.drop_left]
  simp

/-- Declarations are collected in front of those that follow. -/
theorem collectRules_declarations {lines : List Declaration}
    (hlines : ∀ line ∈ lines, line.IsOneLine) (rest : List SheetLine) :
    collectRules (lines.map (fun line => readLine line.line.toList) ++ rest) =
      (lines ++ (collectRules rest).1, (collectRules rest).2) := by
  induction lines with
  | nil => rfl
  | cons line lines ih =>
    rw [List.map_cons, List.cons_append, readLine_line (hlines line List.mem_cons_self),
      collectRules, ih fun other hother => hlines other (List.mem_cons_of_mem _ hother)]
    rfl

/-- A rule is collected in front of those that follow. -/
theorem collectRules_ruleLines {rule : String × List Declaration}
    (hlines : ∀ line ∈ rule.2, line.IsOneLine) (rest : List SheetLine) :
    collectRules ((ruleLines rule).map (fun line => readLine line.toList) ++ rest) =
      ([], (rule.1, rule.2 ++ (collectRules rest).1) :: (collectRules rest).2) := by
  unfold ruleLines
  rw [List.map_cons, readLine_head, List.map_append, List.map_map, List.cons_append, collectRules,
    List.append_assoc]
  simp only [Function.comp_def]
  rw [collectRules_declarations hlines]
  rfl

/-- The lines of rules are collected to these rules. -/
theorem collectRules_sheetLines {rules : Keyed (List Declaration)}
    (hrules : ∀ rule ∈ rules, ∀ line ∈ rule.2, line.IsOneLine) :
    collectRules ((sheetLines rules).map fun line => readLine line.toList) = ([], rules) := by
  fun_induction sheetLines rules with
  | case1 => rfl
  | case2 rule =>
    have hrule := collectRules_ruleLines (hrules rule List.mem_cons_self) []
    simpa [collectRules] using hrule
  | case3 rule next rest ih =>
    specialize ih fun other hother => hrules other (List.mem_cons_of_mem _ hother)
    have hblank : collectRules ((("" :: sheetLines (next :: rest)).map fun line =>
        readLine line.toList)) = ([], next :: rest) := ih
    rw [List.map_append, collectRules_ruleLines (hrules rule List.mem_cons_self), hblank,
      List.append_nil]

/-- A rule with a safe id and a declaration, and with none but declarations of one line each. -/
structure IsReadable (rule : String × List Declaration) : Prop where
  /-- The id is safe. -/
  id : isSafeId rule.1 = true
  /-- There is a declaration. -/
  lines_ne : rule.2 ≠ []
  /-- Each declaration takes one line. -/
  lines : ∀ line ∈ rule.2, line.IsOneLine

/-- No line feed stands in a safe id. -/
theorem newline_notMem_of_isSafeId {id : String} (h : isSafeId id = true) : '\n' ∉ id.toList := by
  intro hmem
  unfold isSafeId at h
  rw [Bool.and_eq_true, List.all_eq_true] at h
  exact absurd (h.2 _ hmem) (by decide)

/-- No line feed stands in a line of such a rule. -/
theorem newline_notMem_ruleLines {rule : String × List Declaration} (h : IsReadable rule)
    {line : String} (hline : line ∈ ruleLines rule) : '\n' ∉ line.toList := by
  simp only [ruleLines, List.mem_cons, List.mem_append, List.mem_map, List.not_mem_nil,
    or_false] at hline
  rcases hline with rfl | ⟨declaration, hdeclaration, rfl⟩ | rfl
  · have hstem : '\n' ∉ selectorStem := by decide
    simp [String.toList_append, toList_presetSelector, hstem, newline_notMem_of_isSafeId h.id]
  · exact (h.lines declaration hdeclaration).newline_notMem
  · decide

/-- No line feed stands in a line of such rules. -/
theorem newline_notMem_sheetLines {rules : Keyed (List Declaration)}
    (h : ∀ rule ∈ rules, IsReadable rule) {line : String} (hline : line ∈ sheetLines rules) :
    '\n' ∉ line.toList := by
  fun_induction sheetLines rules with
  | case1 => simp at hline
  | case2 rule => exact newline_notMem_ruleLines (h rule List.mem_cons_self) hline
  | case3 rule next rest ih =>
    rw [List.mem_append, List.mem_cons] at hline
    rcases hline with hline | rfl | hline
    · exact newline_notMem_ruleLines (h rule List.mem_cons_self) hline
    · simp
    · exact ih (fun other hother => h other (List.mem_cons_of_mem _ hother)) hline

/-- The stylesheet of such rules reads back as these. -/
theorem readSheet_sheetOfRules {rules : Keyed (List Declaration)}
    (h : ∀ rule ∈ rules, IsReadable rule) : readSheet (sheetOfRules rules) = rules := by
  rcases eq_or_ne rules [] with rfl | hne
  · rfl
  · have hfeeds : ∀ line ∈ (sheetLines rules).map String.toList, '\n' ∉ line := by
      intro line hline
      obtain ⟨text, htext, rfl⟩ := List.mem_map.mp hline
      exact newline_notMem_sheetLines h htext
    have hsplit : (sheetOfRules rules).toList.splitOn '\n' =
        (sheetLines rules).map String.toList := by
      rw [sheetOfRules_eq_intercalate fun rule hrule => (h rule hrule).lines_ne,
        String.toList_intercalate]
      exact List.splitOn_intercalate '\n' hfeeds (by simpa using sheetLines_ne_nil hne)
    rw [readSheet, hsplit, List.map_map]
    exact congrArg Prod.snd (collectRules_sheetLines fun rule hrule => (h rule hrule).lines)

/-- The text of a rule, which is empty if no declaration is left. -/
def ruleText (rule : String × List Declaration) : String :=
  if rule.2.isEmpty then "" else ruleBlock (presetSelector rule.1) rule.2

/-- A rule with a declaration has a text, and no other. -/
theorem isEmpty_ruleText (rule : String × List Declaration) :
    (ruleText rule).isEmpty = rule.2.isEmpty := by
  unfold ruleText ruleBlock presetSelector
  cases rule.2.isEmpty <;> simp

/-- Texts of rules are joined to the stylesheet of the rules with a declaration. -/
theorem joinRules_ruleText (rules : Keyed (List Declaration)) :
    joinRules (rules.map ruleText) = sheetOfRules (rules.filter fun rule => !rule.2.isEmpty) := by
  have hkeep : ((fun text : String => !text.isEmpty) ∘ ruleText) = fun rule => !rule.2.isEmpty :=
    funext fun rule => congrArg (!·) (isEmpty_ruleText rule)
  have htext : ∀ rule ∈ rules.filter (fun rule => !rule.2.isEmpty),
      ruleText rule = ruleBlock (presetSelector rule.1) rule.2 := by
    intro rule hrule
    have hlines : rule.2.isEmpty = false := by simpa using (List.mem_filter.mp hrule).2
    rw [ruleText, hlines]
    rfl
  rw [joinRules, List.filter_map, hkeep, sheetOfRules, List.map_congr_left htext]

/-- The rule of a preset without a comment is the text of its declarations. -/
theorem rule_eq_map_ruleText (preset : Preset) (id : String) :
    preset.rule id false =
      ((declarations preset.properties).map fun lines => (id, lines)).map ruleText := by
  unfold Preset.rule presetRule
  cases declarations preset.properties with
  | error fault => rfl
  | ok lines => simp [Except.map, ruleText]

/-- The stylesheet of presets without comments is that of the rules with a declaration left. -/
theorem presetSheet_eq (presets : Keyed Preset) :
    presetSheet presets false = (survivingRules presets).map sheetOfRules := by
  have hrules : (presets.mapM fun entry => Preset.rule entry.2 entry.1 false) =
      (presets.mapM fun entry =>
        (declarations entry.2.properties).map fun lines => (entry.1, lines)).map
          (List.map ruleText) := by
    rw [← mapM_map_result]
    exact congrArg (presets.mapM ·) (funext fun entry => rule_eq_map_ruleText entry.2 entry.1)
  have hsheet : presetSheet presets false =
      (presets.mapM fun entry => Preset.rule entry.2 entry.1 false).map joinRules := rfl
  rw [hsheet, hrules, survivingRules]
  cases presets.mapM fun entry =>
      (declarations entry.2.properties).map fun lines => (entry.1, lines) with
  | error fault => rfl
  | ok rules => exact congrArg Except.ok (joinRules_ruleText rules)

/-- None of the values that a stylesheet of presets is made with has a line feed. -/
def HasOneLineValues (presets : Keyed Preset) : Prop :=
  ∀ entry ∈ presets, ∀ named ∈ entry.2.properties, ∀ property text,
    stylesheetProperty? named.1 = some property →
      declarationValue property named.2 = .ok (some text) → '\n' ∉ text.toList

/-- What is left of presets with safe ids and values of one line can be read back. -/
theorem isReadable_of_survivingRules {presets : Keyed Preset} (hsafe : SafeIds presets)
    (hvalues : HasOneLineValues presets) {rules : Keyed (List Declaration)}
    (h : survivingRules presets = .ok rules) : ∀ rule ∈ rules, IsReadable rule := by
  intro rule hrule
  obtain ⟨found, hfound, rfl⟩ := map_eq_ok_iff.mp h
  obtain ⟨hmem, hlines⟩ := List.mem_filter.mp hrule
  obtain ⟨entry, hentry, hread⟩ := exists_mem_of_mapM_eq_ok hfound hmem
  obtain ⟨lines, hdeclarations, rfl⟩ := map_eq_ok_iff.mp hread
  refine ⟨hsafe entry hentry, by simpa using hlines, fun line hline => ?_⟩
  obtain ⟨named, hnamed, hproperty, hvalue⟩ := exists_of_mem_declarations hdeclarations hline
  exact ⟨isPropertyChar_of_stylesheetProperty hproperty,
    hvalues entry hentry named hnamed _ _ hproperty hvalue⟩

/-- What is left of presets with safe ids and values of one line is read from their stylesheet. -/
theorem survivingRules_eq_of_presetSheet {presets : Keyed Preset} (hsafe : SafeIds presets)
    (hvalues : HasOneLineValues presets) {css : String}
    (h : presetSheet presets false = .ok css) : survivingRules presets = .ok (readSheet css) := by
  rw [presetSheet_eq] at h
  obtain ⟨rules, hrules, rfl⟩ := map_eq_ok_iff.mp h
  rw [readSheet_sheetOfRules (isReadable_of_survivingRules hsafe hvalues hrules), hrules]

/-- A registry that loading presets gives, whatever they are loaded from. -/
def Registry.IsLoaded (registry : Registry) : Prop :=
  ∃ source keys defaultGroup tree,
    ((Registry.load source keys defaultGroup).runOn tree).1.outcome = .ok registry

/-- The presets of a file's registry have safe ids. -/
theorem safeIds_of_ofReading {path : Path} {reading : Except Fault Value} {keys : List Value}
    {defaultGroup : Value} {registry : Registry}
    (h : (Registry.ofReading path reading keys defaultGroup).outcome = .ok registry) :
    SafeIds registry.presets := by
  unfold Registry.ofReading at h
  split at h
  · exact safeIds_of_ofDocument h
  · obtain ⟨-, -, h⟩ := Noted.outcome_bind_eq_ok_iff.mp h
    cases h
    simp [Registry.empty, SafeIds]
  · cases h

/-- The presets of a loaded registry have safe ids. -/
theorem Registry.IsLoaded.safeIds {registry : Registry} (h : registry.IsLoaded) :
    SafeIds registry.presets := by
  obtain ⟨source, keys, defaultGroup, tree, h⟩ := h
  cases source with
  | none =>
    cases h
    simp [Registry.empty, SafeIds]
  | document entries => exact safeIds_of_ofDocument h
  | file path =>
    rw [FileDialogue.runOn, Registry.load, Dialogue.run_bind] at h
    exact safeIds_of_ofReading h

/-- The stylesheets of two loaded registries without line feeds in their values are the same exactly
if the same ids come with the same declarations in the same order, of the presets with one. What
these are can be read from the stylesheet. -/
theorem presetSheet_eq_iff {registry other : Registry} (hloaded : registry.IsLoaded)
    (hother : other.IsLoaded) (hvalues : HasOneLineValues registry.presets)
    (hothers : HasOneLineValues other.presets) :
    (presetSheet registry.presets false = presetSheet other.presets false ↔
      survivingRules registry.presets = survivingRules other.presets) ∧
    ∀ css, presetSheet registry.presets false = .ok css →
      survivingRules registry.presets = .ok (readSheet css) := by
  refine ⟨⟨fun hsame => ?_, fun hsame => ?_⟩, fun css hsheet => ?_⟩
  · cases hsheet : presetSheet registry.presets false with
    | error fault =>
      have hfault := hsame ▸ hsheet
      rw [presetSheet_eq, map_eq_error_iff] at hsheet hfault
      rw [hsheet, hfault]
    | ok css =>
      have hrules := survivingRules_eq_of_presetSheet hloaded.safeIds hvalues hsheet
      have hotherRules := survivingRules_eq_of_presetSheet hother.safeIds hothers (hsame ▸ hsheet)
      rw [hrules, hotherRules]
  · rw [presetSheet_eq, presetSheet_eq, hsame]
  · exact survivingRules_eq_of_presetSheet hloaded.safeIds hvalues hsheet

/-- A document with values that look like the rest of a stylesheet, and a preset of which nothing is
left. -/
def deceptiveDocument : Value.Entries :=
  [(.str "items", .map [
    (.str "a", .map [(.str "properties", .map [(.str "color", .str "red;\x7d")])]),
    (.str "b", .map [(.str "properties", .map [(.str "color", .str "")])]),
    (.str "c", .map [(.str "properties", .map [(.str "src", .str ".has-type-preset-b \x7b")])])])]

/-- The registry of that document. -/
def deceptiveRegistry : Registry :=
  ⟨[("a", ⟨"a", "A", "", "theme", none, [("color", .str "red;\x7d")]⟩),
    ("b", ⟨"b", "B", "", "theme", none, [("color", .str "")]⟩),
    ("c", ⟨"c", "C", "", "theme", none, [("src", .str ".has-type-preset-b \x7b")]⟩)],
    [], .ok, none, none⟩

/-- A document whose only value looks like the stylesheet of the other one. -/
def imitatingDocument : Value.Entries :=
  [(.str "items", .map [(.str "a", .map [(.str "properties", .map [
    (.str "color", .str "red;\x7d; \x7d .has-type-preset-c \x7b src: url(b)")])])])]

/-- The registry of that document. -/
def imitatingRegistry : Registry :=
  ⟨[("a", ⟨"a", "A", "", "theme", none,
    [("color", .str "red;\x7d; \x7d .has-type-preset-c \x7b src: url(b)")]⟩)],
    [], .ok, none, none⟩

theorem hasOneLineValues_deceptive : HasOneLineValues deceptiveRegistry.presets := by
  intro entry hentry named hnamed property text hproperty hvalue
  simp only [deceptiveRegistry, List.mem_cons, List.not_mem_nil, or_false] at hentry
  rcases hentry with rfl | rfl | rfl <;> cases List.mem_singleton.mp hnamed <;> cases hproperty
  · cases hvalue
    decide
  · cases hvalue
  · cases hvalue
    decide

theorem hasOneLineValues_imitating : HasOneLineValues imitatingRegistry.presets := by
  intro entry hentry named hnamed property text hproperty hvalue
  cases List.mem_singleton.mp hentry
  cases List.mem_singleton.mp hnamed
  cases hproperty
  cases hvalue
  decide

theorem presetSheet_eq_iff_deceptive :
    (presetSheet deceptiveRegistry.presets false = presetSheet imitatingRegistry.presets false ↔
      survivingRules deceptiveRegistry.presets = survivingRules imitatingRegistry.presets) ∧
    ∀ css, presetSheet deceptiveRegistry.presets false = .ok css →
      survivingRules deceptiveRegistry.presets = .ok (readSheet css) :=
  presetSheet_eq_iff ⟨.document deceptiveDocument, [], .str "theme", .empty, rfl⟩
    ⟨.document imitatingDocument, [], .str "theme", .empty, rfl⟩ hasOneLineValues_deceptive
    hasOneLineValues_imitating

end StyleTokens
