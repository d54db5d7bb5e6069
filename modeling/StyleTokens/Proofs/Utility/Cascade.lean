import Mathlib.Data.List.Nodup
import Mathlib.Data.Rat.Defs
import Mathlib.Order.WithBot
import StyleTokens.Proofs.ClassName.Responsive
import StyleTokens.Proofs.Token.Edge
import StyleTokens.Proofs.Utility.Section

/-!
# What the classes of a responsive value do

The classes that a responsive value of padding or margin compiles to, and the utility sheet that is
made for them, agree: at every width of the viewport each edge gets the size that the value sets
for it at the widest breakpoint that is active and sets any.
-/

namespace StyleTokens

/-- The name of an edge. -/
def Edge.name (edge : Edge) : String := edge.side.name

/-- Whether rules from a width on are active in a viewport. -/
def ActiveAt (viewport : ℚ) (leastWidth : WithBot Nat) : Prop :=
  ∀ n : Nat, leastWidth = n → (n : ℚ) ≤ viewport

instance (viewport : ℚ) (leastWidth : WithBot Nat) : Decidable (ActiveAt viewport leastWidth) :=
  match leastWidth with
  | ⊥ => isTrue fun _ h => nomatch h
  | (n : Nat) => decidable_of_iff ((n : ℚ) ≤ viewport) (by simp [ActiveAt])

/-- Whether a property sets an edge: the shorthand of a category does, and so does its longhand for
the edge. -/
def setsEdge (category : StyleCategory) (edge : Edge) (property : String) : Bool :=
  property == category.name || property == category.name ++ "-" ++ edge.name

/-- The values that a rule declares for an edge of an element with the given classes. -/
def StyleRule.declared (viewport : ℚ) (classes : List String) (category : StyleCategory)
    (edge : Edge) (rule : StyleRule) : List String :=
  if ActiveAt viewport rule.leastWidth ∧ rule.className ∈ classes then
    (rule.declarations.filter fun declaration => setsEdge category edge declaration.1).map (·.2)
  else []

/-- The values that the rules of a section declare for an edge. -/
def UtilitySection.declared (viewport : ℚ) (classes : List String) (category : StyleCategory)
    (edge : Edge) (part : UtilitySection) : List String :=
  (part.rules.map (UtilityRule.asRead part.leastWidth)).flatMap
    (StyleRule.declared viewport classes category edge)

/-- The value that an edge gets from rules: of all values declared for it the last one wins. -/
def winner (viewport : ℚ) (classes : List String) (category : StyleCategory) (edge : Edge)
    (rules : List StyleRule) : Option String :=
  (rules.flatMap (StyleRule.declared viewport classes category edge)).getLast?

/-- A responsive value sets a size for an edge at a breakpoint that begins at a width. -/
def SetsAt (breakpoints : List Breakpoint) (entries : Value.Entries) (edge : Edge)
    (leastWidth : WithBot Nat) (size : String) : Prop :=
  ∃ slug raw sides, BeginsAt breakpoints slug leastWidth ∧
    entries.find? (.str slug) = some raw ∧ normalize raw = .ok sides ∧ sides.Sets edge size

/-- A size is set for an edge at the widest breakpoint that is active and sets any. -/
def Governs (viewport : ℚ) (breakpoints : List Breakpoint) (entries : Value.Entries) (edge : Edge)
    (size : String) : Prop :=
  ∃ leastWidth, ActiveAt viewport leastWidth ∧ SetsAt breakpoints entries edge leastWidth size ∧
    ∀ wider, leastWidth < wider → ActiveAt viewport wider →
      ∀ other, ¬ SetsAt breakpoints entries edge wider other

/-- Where keys rise from list to list and each list holds copies of one thing only, the last of all is
what the list of the greatest key holds that is not empty. -/
theorem getLast?_flatMap_eq_some_iff {α β γ : Type} [Preorder γ] {key : α → γ} {f : α → List β}
    {things : List α} (hrising : things.Pairwise fun a b => key a < key b)
    (hsame : ∀ thing ∈ things, ∀ x ∈ f thing, ∀ y ∈ f thing, x = y) {x : β} :
    (things.flatMap f).getLast? = some x ↔
      ∃ thing ∈ things, x ∈ f thing ∧
        ∀ other ∈ things, key thing < key other → f other = [] := by
  induction things with
  | nil => simp
  | cons first things ih =>
    obtain ⟨hfirst, hrising⟩ := List.pairwise_cons.mp hrising
    rw [List.flatMap_cons, List.getLast?_append, Option.or_eq_some_iff,
      ih hrising fun thing hthing => hsame thing (List.mem_cons_of_mem _ hthing),
      List.getLast?_eq_none_iff, List.flatMap_eq_nil_iff]
    constructor
    · rintro (⟨thing, hthing, hx, hgreater⟩ | ⟨hnone, hlast⟩)
      · refine ⟨thing, List.mem_cons_of_mem _ hthing, hx, List.forall_mem_cons.mpr ⟨?_, hgreater⟩⟩
        exact fun hless => absurd hless (hfirst thing hthing).asymm
      · refine ⟨first, List.mem_cons_self, List.mem_of_getLast? hlast,
          List.forall_mem_cons.mpr ⟨?_, fun other hother _ => hnone other hother⟩⟩
        exact fun hless => absurd hless (lt_irrefl _)
    · rintro ⟨thing, hthing, hx, hgreater⟩
      have hlater := (List.forall_mem_cons.mp hgreater).2
      rcases List.mem_cons.mp hthing with rfl | hthing
      · refine Or.inr ⟨fun other hother => hlater other hother (hfirst other hother), ?_⟩
        obtain ⟨y, hy⟩ : ∃ y, (f thing).getLast? = some y :=
          ⟨_, List.getLast?_eq_some_getLast (List.ne_nil_of_mem hx)⟩
        rw [hy, hsame thing List.mem_cons_self y (List.mem_of_getLast? hy) x hx]
      · exact Or.inl ⟨thing, hthing, hx, hlater⟩

/-- The properties of padding and margin set an edge if their side covers it. -/
theorem exists_setsEdge_iff {category other : StyleCategory} (hbox : category ≠ .gap)
    (edge : Edge) (side : Side) :
    (∃ property ∈ sideProperties other side, setsEdge category edge property = true) ↔
      other = category ∧ side ∈ edge.covering := by
  cases category with
  | gap => exact absurd rfl hbox
  | padding =>
    cases other <;> cases side <;> cases edge <;>
      simp [setsEdge, sideProperties, sideProperties.boxParts, StyleCategory.name, Edge.covering,
        Edge.name, Edge.side, Edge.axis, Side.name]
  | margin =>
    cases other <;> cases side <;> cases edge <;>
      simp [setsEdge, sideProperties, sideProperties.boxParts, StyleCategory.name, Edge.covering,
        Edge.name, Edge.side, Edge.axis, Side.name]

namespace GivenSize

/-- A scale of steps has the sheet of these. -/
theorem sheet_map_step (sizes : List SpacingSize) (breakpoints : List Breakpoint)
    (categories : List StyleCategory) (variableStem : String) :
    sheet (sizes.map .step) breakpoints categories variableStem =
      utilitySheet sizes breakpoints categories variableStem := by
  rw [sheet, utilitySheet, scale_map_step, List.isEmpty_map]

/-- A scale of unchecked data has the sheet of this, for categories that are known by their
names. -/
theorem sheet_map_data (values : List Value) (breakpoints : List Breakpoint)
    (categories : List StyleCategory) (variableStem : String) :
    utilitySheetOfValues values breakpoints (categories.map fun category => .str category.name)
        variableStem =
      .ok (sheet (values.map .data) breakpoints categories variableStem) := by
  have hcategories : (categories.map fun category => Value.str category.name).mapM
      categoryOfValue = .ok categories := by
    rw [mapM_eq_ok_iff, List.forall₂_map_left_iff, List.forall₂_same]
    exact fun category _ => categoryOfValue_name category
  rw [sheet, utilitySheetOfValues, scale_map_data, List.isEmpty_map, hcategories]
  split <;> rfl

end GivenSize

/-- A spacing scale as it may be given: as sizes, as unchecked data for them, or as both. -/
inductive ScaleSource where
  /-- Sizes. -/
  | sizes (steps : List SpacingSize)
  /-- Unchecked data. -/
  | values (data : List Value)
  /-- Sizes and unchecked data. -/
  | mixed (parts : List GivenSize)

namespace ScaleSource

/-- What is given, size by size. -/
def given : ScaleSource → List GivenSize
  | .sizes steps => steps.map .step
  | .values data => data.map .data
  | .mixed parts => parts

/-- Whether nothing is given. -/
def isEmpty : ScaleSource → Bool
  | .sizes steps => steps.isEmpty
  | .values data => data.isEmpty
  | .mixed parts => parts.isEmpty

/-- The scale, led by the size zero. -/
def scale : ScaleSource → List SpacingSize
  | .sizes steps => SpacingSize.withZero steps
  | .values data => SpacingSize.scaleOfValues data
  | .mixed parts => GivenSize.scale parts

/-- The utility sheet of all categories. -/
def sheet (source : ScaleSource) (breakpoints : List Breakpoint) (variableStem : String) :
    Except Fault String :=
  match source with
  | .sizes steps => .ok (utilitySheet steps breakpoints StyleCategory.order variableStem)
  | .values data =>
    utilitySheetOfValues data breakpoints
      (StyleCategory.order.map fun category => .str category.name) variableStem
  | .mixed parts => .ok (GivenSize.sheet parts breakpoints StyleCategory.order variableStem)

theorem isEmpty_given (source : ScaleSource) : source.given.isEmpty = source.isEmpty := by
  cases source <;> simp [given, isEmpty]

theorem scale_given (source : ScaleSource) : GivenSize.scale source.given = source.scale := by
  cases source with
  | sizes steps => exact GivenSize.scale_map_step steps
  | values data => exact GivenSize.scale_map_data data
  | mixed parts => rfl

/-- However it is given, a scale has the sheet of what is given, size by size. -/
theorem sheet_given (source : ScaleSource) (breakpoints : List Breakpoint)
    (variableStem : String) :
    source.sheet breakpoints variableStem =
      .ok (GivenSize.sheet source.given breakpoints StyleCategory.order variableStem) := by
  cases source with
  | sizes steps => exact congrArg Except.ok (GivenSize.sheet_map_step steps _ _ _).symm
  | values data => exact GivenSize.sheet_map_data data _ _ _
  | mixed parts => rfl

/-- Unless nothing is given there is a sheet: that of the sections of the scale. -/
theorem sheet_eq_ok {source : ScaleSource} (h : source.isEmpty = false)
    (breakpoints : List Breakpoint) (variableStem : String) :
    source.sheet breakpoints variableStem =
      .ok (utilityText
        (utilitySections source.scale breakpoints StyleCategory.order variableStem)) := by
  rw [sheet_given, GivenSize.sheet, isEmpty_given, if_neg (by simp [h]), scale_given]

end ScaleSource

/-- The slugs of a responsive value are those of the base or of breakpoints, and its entries are
read as slugs of the scale. -/
def Fits (scale : List SpacingSize) (breakpoints : List Breakpoint) (entries : Value.Entries) :
    Prop :=
  ∀ entry ∈ entries, ∃ slug, entry.1 = .str slug ∧
    (slug = baseBreakpoint ∨ ∃ breakpoint ∈ breakpoints, breakpoint.slug = slug) ∧
    ∃ sides, normalize entry.2 = .ok sides ∧
      ∀ side value, (side, value) ∈ sides → ∃ size ∈ scale, size.slug = value

/-- The names are the classes that the entries of a responsive value stand for. -/
def ClassesOf (category : StyleCategory) (entries : Value.Entries) (names : List String) : Prop :=
  ∀ name, name ∈ names ↔ ∃ slug raw sides, entries.find? (.str slug) = some raw ∧
    normalize raw = .ok sides ∧ ∃ side value, (side, value) ∈ sides ∧
      name = className category.stem slug side value

section

variable {scale : List SpacingSize} {breakpoints : List Breakpoint} {variableStem : String}
  {category : StyleCategory} {entries : Value.Entries} {viewport : ℚ} {classes : List String}
  {edge : Edge} {text : String}

/-- What a rule of the sheet declares for an edge is its value. -/
theorem mem_declared_asRead {leastWidth : WithBot Nat} {rule : UtilityRule} :
    text ∈ (rule.asRead leastWidth).declared viewport classes category edge ↔
      (ActiveAt viewport leastWidth ∧ rule.classText ∈ classes) ∧ text = rule.value ∧
        ∃ property ∈ rule.properties, setsEdge category edge property = true := by
  unfold StyleRule.declared UtilityRule.asRead
  dsimp only
  split_ifs with hactive
  · simp only [hactive, true_and, List.mem_map, List.mem_filter]
    constructor
    · rintro ⟨-, ⟨⟨property, hproperty, rfl⟩, hsets⟩, rfl⟩
      exact ⟨rfl, property, hproperty, hsets⟩
    · rintro ⟨rfl, property, hproperty, hsets⟩
      exact ⟨_, ⟨⟨property, hproperty, rfl⟩, hsets⟩, rfl⟩
  · simp [hactive]

/-- The slugs of a fitting value have no colon, and what it sets are slugs of the scale. -/
theorem Fits.plain (hfits : Fits scale breakpoints entries)
    (h : Legible scale breakpoints variableStem) {slug : String} {raw : Value} {sides : Sides}
    (hraw : entries.find? (.str slug) = some raw) (hsides : normalize raw = .ok sides) :
    ':' ∉ slug.toList ∧
      ∀ side value, (side, value) ∈ sides → ∃ size ∈ scale, size.slug = value := by
  obtain ⟨slug', hslug', hknown, sides', hsides', hvalues⟩ :=
    hfits _ (mem_of_find?_eq_some hraw)
  cases hslug'
  rw [hsides] at hsides'
  cases hsides'
  refine ⟨?_, hvalues⟩
  rcases hknown with rfl | ⟨breakpoint, hmem, rfl⟩
  · simp [baseBreakpoint]
  · exact fun hcolon => ((h.breakpointSlugs breakpoint hmem).1 _ hcolon).1 rfl

/-- A rule of padding or margin styles an element with the classes of a value exactly if the value
sets the rule's side to its size at its breakpoint. -/
theorem className_mem_iff (h : Legible scale breakpoints variableStem)
    (hfits : Fits scale breakpoints entries) (hclasses : ClassesOf category entries classes)
    {slug : String} (hslug : PlainSlug slug) {side : Side} {size : SpacingSize}
    (hsize : size ∈ scale) :
    className category.stem slug side size.slug ∈ classes ↔
      ∃ raw sides, entries.find? (.str slug) = some raw ∧ normalize raw = .ok sides ∧
        (side, size.slug) ∈ sides := by
  rw [hclasses]
  constructor
  · rintro ⟨slug', raw, sides, hraw, hsides, side', value, hvalue, hname⟩
    obtain ⟨hcolon, hvalues⟩ := hfits.plain h hraw hsides
    obtain ⟨other, hother, rfl⟩ := hvalues side' value hvalue
    obtain ⟨-, rfl, rfl, hsame⟩ := className_inj (fun hmem => (hslug _ hmem).1 rfl) hcolon
      (fun hmem => (h.sizeSlugs size hsize _ hmem).1 rfl)
      (fun hmem => (h.sizeSlugs other hother _ hmem).1 rfl) hname
    rw [← hsame] at hvalue
    exact ⟨raw, sides, hraw, hsides, hvalue⟩
  · rintro ⟨raw, sides, hraw, hsides, hvalue⟩
    exact ⟨slug, raw, sides, hraw, hsides, side, size.slug, hvalue, rfl⟩

/-- The values that the rules of a section declare for an edge of an element with the classes of a
responsive value: those of the sizes that the value sets for the edge at the section's slug. -/
theorem mem_declared_iff (h : Legible scale breakpoints variableStem) (hbox : category ≠ .gap)
    (hfits : Fits scale breakpoints entries) (hclasses : ClassesOf category entries classes)
    {slug : String} (hslug : PlainSlug slug) {part : UtilitySection}
    (hrules : part.rules = rulesAt slug variableStem scale StyleCategory.order) :
    text ∈ part.declared viewport classes category edge ↔
      ActiveAt viewport part.leastWidth ∧ ∃ size ∈ scale, text = size.value variableStem ∧
        ∃ raw sides, entries.find? (.str slug) = some raw ∧ normalize raw = .ok sides ∧
          sides.Sets edge size.slug := by
  have hmarker := StyleCategory.marker?_eq_none hbox
  have hclass (slug' : String) (side : Side) (size : SpacingSize) :
      UtilityRule.classText ⟨category.marker?, className category.stem slug' side size.slug,
        sideProperties category side, size.value variableStem⟩ =
          className category.stem slug' side size.slug := by
    simp [UtilityRule.classText, hmarker]
  unfold UtilitySection.declared
  simp only [hrules, List.mem_flatMap, List.mem_map]
  constructor
  · rintro ⟨-, ⟨rule, hrule, rfl⟩, htext⟩
    obtain ⟨⟨hactive, hname⟩, rfl, hsets⟩ := mem_declared_asRead.mp htext
    obtain ⟨other, -, side, size, hsize, -, rfl⟩ := mem_rulesAt.mp hrule
    obtain ⟨rfl, hside⟩ := (exists_setsEdge_iff hbox edge side).mp hsets
    rw [hclass] at hname
    obtain ⟨raw, sides, hraw, hsides, hvalue⟩ :=
      (className_mem_iff h hfits hclasses hslug hsize).mp hname
    exact ⟨hactive, size, hsize, rfl, raw, sides, hraw, hsides, side, hside, hvalue⟩
  · rintro ⟨hactive, size, hsize, rfl, raw, sides, hraw, hsides, side, hside, hvalue⟩
    have hsets := (exists_setsEdge_iff hbox edge side).mpr ⟨rfl, hside⟩
    have horder : category ∈ StyleCategory.order := by cases category <;> decide
    refine ⟨_, ⟨_, mem_rulesAt.mpr ⟨category, horder, side, size, hsize, ?_, rfl⟩, rfl⟩,
      mem_declared_asRead.mpr ⟨⟨hactive, ?_⟩, rfl, hsets⟩⟩
    · obtain ⟨property, hproperty, -⟩ := hsets
      exact List.ne_nil_of_mem hproperty
    · rw [hclass]
      exact (className_mem_iff h hfits hclasses hslug hsize).mpr ⟨raw, sides, hraw, hsides, hvalue⟩

/-- The values that the rules of a section declare for an edge are all the same. -/
theorem declared_unique (h : Legible scale breakpoints variableStem) (hbox : category ≠ .gap)
    (hfits : Fits scale breakpoints entries) (hclasses : ClassesOf category entries classes)
    {part : UtilitySection}
    (hpart : part ∈ utilitySections scale breakpoints StyleCategory.order variableStem)
    {other : String} (htext : text ∈ part.declared viewport classes category edge)
    (hother : other ∈ part.declared viewport classes category edge) : text = other := by
  obtain ⟨slug, hslug, -, hrules⟩ := exists_beginsAt_of_section h hpart
  obtain ⟨-, size, hsize, rfl, raw, sides, hraw, hsides, hsets⟩ :=
    (mem_declared_iff h hbox hfits hclasses hslug hrules).mp htext
  obtain ⟨-, size', hsize', rfl, raw', sides', hraw', hsides', hsets'⟩ :=
    (mem_declared_iff h hbox hfits hclasses hslug hrules).mp hother
  rw [hraw] at hraw'
  cases hraw'
  rw [hsides] at hsides'
  cases hsides'
  have hslugs : size.slug = size'.slug := sets_unique hsides hsets hsets'
  have hsame : size = size' := List.inj_on_of_nodup_map h.distinctSizes hsize hsize' hslugs
  rw [hsame]

/-- Where a value sets a size for an edge at an active breakpoint, the sheet has a section that
declares the size. -/
theorem exists_declared_of_setsAt (h : Legible scale breakpoints variableStem)
    (hbox : category ≠ .gap) (hfits : Fits scale breakpoints entries)
    (hclasses : ClassesOf category entries classes) {leastWidth : WithBot Nat}
    (hactive : ActiveAt viewport leastWidth) {slug : String}
    (hset : SetsAt breakpoints entries edge leastWidth slug) :
    ∃ part ∈ utilitySections scale breakpoints StyleCategory.order variableStem,
      part.leastWidth = leastWidth ∧ ∃ size ∈ scale, size.slug = slug ∧
        size.value variableStem ∈ part.declared viewport classes category edge := by
  obtain ⟨place, raw, sides, hbegins, hraw, hsides, hsets⟩ := hset
  obtain ⟨part, hpart, rfl, hrules⟩ :=
    exists_section_of_beginsAt StyleCategory.order h hbegins
  obtain ⟨side, hside, hvalue⟩ := hsets
  obtain ⟨size, hsize, rfl⟩ := (hfits.plain h hraw hsides).2 side slug hvalue
  refine ⟨part, hpart, rfl, size, hsize, rfl, ?_⟩
  exact (mem_declared_iff h hbox hfits hclasses (plainSlug_of_beginsAt h hbegins) hrules).mpr
    ⟨hactive, size, hsize, rfl, raw, sides, hraw, hsides, side, hside, hvalue⟩

/-- Only a size that the value sets at an active breakpoint is declared. -/
theorem exists_setsAt_of_declared (h : Legible scale breakpoints variableStem)
    (hbox : category ≠ .gap) (hfits : Fits scale breakpoints entries)
    (hclasses : ClassesOf category entries classes) {part : UtilitySection}
    (hpart : part ∈ utilitySections scale breakpoints StyleCategory.order variableStem)
    (htext : text ∈ part.declared viewport classes category edge) :
    ActiveAt viewport part.leastWidth ∧ ∃ size ∈ scale, text = size.value variableStem ∧
      SetsAt breakpoints entries edge part.leastWidth size.slug := by
  obtain ⟨slug, hslug, hbegins, hrules⟩ := exists_beginsAt_of_section h hpart
  obtain ⟨hactive, size, hsize, hvalue, raw, sides, hraw, hsides, hsets⟩ :=
    (mem_declared_iff h hbox hfits hclasses hslug hrules).mp htext
  exact ⟨hactive, size, hsize, hvalue, slug, raw, sides, hbegins, hraw, hsides, hsets⟩

/-- The value that wins for an edge is that of the size that governs it. -/
theorem winner_utilitySections (h : Legible scale breakpoints variableStem) (hbox : category ≠ .gap)
    (hfits : Fits scale breakpoints entries) (hclasses : ClassesOf category entries classes) :
    winner viewport classes category edge (StyleRule.ofSheet
        (utilityText (utilitySections scale breakpoints StyleCategory.order variableStem))) =
      some text ↔
    ∃ size ∈ scale, Governs viewport breakpoints entries edge size.slug ∧
      text = size.value variableStem := by
  unfold winner
  rw [ofSheet_utilitySections h, List.flatMap_assoc]
  change ((utilitySections scale breakpoints StyleCategory.order variableStem).flatMap
    (UtilitySection.declared viewport classes category edge)).getLast? = some text ↔ _
  rw [getLast?_flatMap_eq_some_iff (pairwise_leastWidth StyleCategory.order h)
    fun part hpart x hx y hy => declared_unique h hbox hfits hclasses hpart hx hy]
  constructor
  · rintro ⟨part, hpart, htext, hwidest⟩
    obtain ⟨hactive, size, hsize, rfl, hset⟩ :=
      exists_setsAt_of_declared h hbox hfits hclasses hpart htext
    refine ⟨size, hsize, ⟨part.leastWidth, hactive, hset,
      fun wider hwider hactive' other hother => ?_⟩, rfl⟩
    obtain ⟨part', hpart', rfl, size', -, -, hvalue⟩ :=
      exists_declared_of_setsAt h hbox hfits hclasses hactive' hother
    rw [hwidest part' hpart' hwider] at hvalue
    cases hvalue
  · rintro ⟨size, hsize, ⟨leastWidth, hactive, hset, hwidest⟩, rfl⟩
    obtain ⟨part, hpart, rfl, size', hsize', hslug, hvalue⟩ :=
      exists_declared_of_setsAt h hbox hfits hclasses hactive hset
    obtain rfl : size' = size := List.inj_on_of_nodup_map h.distinctSizes hsize' hsize hslug
    refine ⟨part, hpart, hvalue, fun other hother hwider =>
      List.eq_nil_iff_forall_not_mem.mpr fun text htext => ?_⟩
    obtain ⟨hactive', size, -, -, hset'⟩ :=
      exists_setsAt_of_declared h hbox hfits hclasses hother htext
    exact hwidest other.leastWidth hwider hactive' size.slug hset'

end

/-- The classes of a responsive value of padding or margin and the utility sheet agree: in every
viewport and in whatever order the classes are asked for, an edge gets a value exactly if it is that
of the size which the responsive value sets for the edge at the widest active breakpoint that sets
any. -/
theorem winner_eq_some_iff_governs {source : ScaleSource} {breakpoints : List Breakpoint}
    {variableStem : String} {category : StyleCategory} {entries : Value.Entries} {order : Value}
    {slugs : List Scalar} (hgiven : source.isEmpty = false)
    (hlegible : Legible source.scale breakpoints variableStem) (hbox : category ≠ .gap)
    (hfits : Fits source.scale breakpoints entries) (horder : breakpointOrder order = .ok slugs) :
    ∃ css classes, source.sheet breakpoints variableStem = .ok css ∧
      (compileResponsive (.str category.name) (.map entries) order).outcome = .ok classes ∧
      ∀ (viewport : ℚ) (edge : Edge) (text : String),
        winner viewport classes category edge (StyleRule.ofSheet css) = some text ↔
          ∃ size ∈ source.scale, Governs viewport breakpoints entries edge size.slug ∧
            text = size.value variableStem := by
  have hentries : ∀ entry ∈ entries, ∃ slug, entry.1 = .str slug ∧
      ∃ sides, normalize entry.2 = .ok sides := by
    intro entry hentry
    obtain ⟨slug, hslug, -, sides, hsides, -⟩ := hfits entry hentry
    exact ⟨slug, hslug, sides, hsides⟩
  obtain ⟨classes, hcompiled, hclasses⟩ := exists_compileResponsive hbox hentries horder
  exact ⟨_, classes, ScaleSource.sheet_eq_ok hgiven breakpoints variableStem, hcompiled,
    fun viewport edge text => winner_utilitySections hlegible hbox hfits hclasses⟩

/-- A scale of one size besides zero. -/
def singleScale : ScaleSource := .sizes [⟨"4", "Four", "1rem"⟩]

/-- A padding on all edges that is taken away at the top from a breakpoint on. -/
def openTopPadding : Value.Entries :=
  [(.str "base", .str "4"), (.str "md", .map [(.str "type", .str "sides"), (.str "top", .str "0")])]

theorem legible_singleScale :
    Legible singleScale.scale [⟨"md", "Medium", "768px"⟩] defaultVariableStem := by
  have hscale : singleScale.scale = [SpacingSize.zero, ⟨"4", "Four", "1rem"⟩] := by
    simp [singleScale, ScaleSource.scale, SpacingSize.withZero, SpacingSize.zero]
  rw [hscale]
  refine ⟨?_, ?_, ?_, ?_, ?_, ?_, ?_⟩
  · simp [SpacingSize.zero, PlainSlug]
    decide
  · simp [SpacingSize.zero]
  · simp [SpacingSize.zero, PlainValue]
  · simp [defaultVariableStem, PlainValue]
  · simp [PlainSlug, baseBreakpoint]
    decide
  · intro breakpoint hmem
    rw [List.mem_singleton] at hmem
    subst hmem
    exact ⟨768, by decide, rfl⟩
  · simp

theorem fits_openTopPadding :
    Fits singleScale.scale [⟨"md", "Medium", "768px"⟩] openTopPadding := by
  intro entry hentry
  simp only [openTopPadding, List.mem_cons, List.not_mem_nil, or_false] at hentry
  rcases hentry with rfl | rfl
  · refine ⟨"base", rfl, Or.inl rfl, [(.all, "4")], rfl, ?_⟩
    simp [singleScale, ScaleSource.scale, SpacingSize.withZero, SpacingSize.zero]
  · refine ⟨"md", rfl, Or.inr ⟨_, List.mem_singleton.mpr rfl, rfl⟩, [(.top, "0")], rfl, ?_⟩
    simp [singleScale, ScaleSource.scale, SpacingSize.withZero, SpacingSize.zero]

theorem winner_openTopPadding :
    ∃ css classes,
      singleScale.sheet [⟨"md", "Medium", "768px"⟩] defaultVariableStem = .ok css ∧
      (compileResponsive (.str "padding") (.map openTopPadding) .null).outcome = .ok classes ∧
      ∀ (viewport : ℚ) (edge : Edge) (text : String),
        winner viewport classes .padding edge (StyleRule.ofSheet css) = some text ↔
          ∃ size ∈ singleScale.scale,
            Governs viewport [⟨"md", "Medium", "768px"⟩] openTopPadding edge size.slug ∧
              text = size.value defaultVariableStem :=
  @winner_eq_some_iff_governs singleScale _ _ .padding _ _ [] rfl legible_singleScale
    (by decide) fits_openTopPadding rfl

end StyleTokens
