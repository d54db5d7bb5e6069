import Mathlib.Data.List.Perm.Basic
import StyleTokens.Proofs.ClassName.Stop
import StyleTokens.Proofs.Keyed

/-!
# The arrangement of breakpoints

A list of breakpoints arranges those of a map: the listed ones come first, by where they first come
up in the list, and the others follow as they stand in the map. There is just one such arrangement.
A map that is put together in it has the same classes without any list, and where all breakpoints
are listed, the order of entries makes no difference.
-/

namespace StyleTokens

/-- One breakpoint of a map stands before another, given the list of those that come first. -/
structure StandsBefore (order slugs : List String) (earlier later : String) : Prop where
  /-- A listed breakpoint has only listed ones before it, and those first come up earlier in the
  list. -/
  listed : later ∈ order → earlier ∈ order ∧ order.idxOf earlier < order.idxOf later
  /-- Another one has listed ones before it, and those that stand before it in the map. -/
  other : later ∉ order → earlier ∈ order ∨ slugs.idxOf earlier < slugs.idxOf later

/-- The breakpoints of a map in the order that a list gives them. -/
structure IsArrangement (order slugs arranged : List String) : Prop where
  /-- Every breakpoint has its place, and nothing else has one. -/
  perm : arranged.Perm slugs
  /-- The listed ones come first, by their first place in the list, and the others follow as they
  stand in the map. -/
  pairwise : arranged.Pairwise (StandsBefore order slugs)

/-- No two breakpoints stand before each other. -/
theorem StandsBefore.asymm {order slugs : List String} {slug other : String}
    (h : StandsBefore order slugs slug other) : ¬StandsBefore order slugs other slug := by
  intro h'
  by_cases hother : other ∈ order
  · obtain ⟨hslug, hbefore⟩ := h.listed hother
    exact hbefore.asymm (h'.listed hslug).2
  · have hslug : slug ∉ order := fun hslug => hother (h'.listed hslug).1
    exact ((h.other hother).resolve_left hslug).asymm ((h'.other hslug).resolve_left hother)

/-- Breakpoints have one arrangement. -/
theorem IsArrangement.unique {order slugs arranged arranged' : List String}
    (h : IsArrangement order slugs arranged) (h' : IsArrangement order slugs arranged') :
    arranged = arranged' :=
  List.Perm.eq_of_pairwise (fun _ _ _ _ hbefore hafter => absurd hafter hbefore.asymm) h.pairwise
    h'.pairwise (h.perm.trans h'.perm.symm)

/-! ### Texts in the order asked for -/

theorem distinctKeys_concat (keys : List Scalar) (key : Scalar) :
    distinctKeys (keys ++ [key]) =
      if (distinctKeys keys).any (·.sameKey key) then distinctKeys keys
      else distinctKeys keys ++ [key] := by
  rw [distinctKeys, List.foldl_append]
  rfl

theorem mem_map_str_iff {slugs : List String} {slug : String} :
    Scalar.str slug ∈ slugs.map .str ↔ slug ∈ slugs :=
  List.mem_map_of_injective fun _ _ => Scalar.str.inj

/-- Texts without repetitions, each at its first place. -/
theorem distinctKeys_texts (slugs : List String) :
    distinctKeys (slugs.map .str) = slugs.eraseDups.map .str := by
  induction slugs using List.reverseRecOn with
  | nil => rfl
  | append_singleton slugs slug ih =>
    rw [List.map_append, List.map_singleton, distinctKeys_concat, ih, eraseDups_concat]
    simp only [any_sameKey_str_iff, mem_map_str_iff, List.mem_eraseDups]
    split_ifs
    · rfl
    · rw [List.map_append, List.map_singleton]

/-- The breakpoints of a map in the order asked for: first those that are listed. -/
def orderedSlugs (slugs order : List String) : List String :=
  order.eraseDups.filter (· ∈ slugs) ++ slugs.filter (· ∉ order)

theorem orderedSlugs_nil (slugs : List String) : orderedSlugs slugs [] = slugs := by
  simp [orderedSlugs]

/-- Where keys are texts, so is what is done with them. -/
theorem orderedKeys_texts (slugs order : List String) :
    orderedKeys (slugs.map .str) (order.map .str) = (orderedSlugs slugs order).map .str := by
  have hlisted : listedKeys (slugs.map .str) (order.map .str) =
      (order.eraseDups.filter (· ∈ slugs)).map .str := by
    rw [listedKeys, distinctKeys_texts, List.filter_map]
    congr 1
    refine List.filter_congr fun slug _ => Bool.eq_iff_iff.mpr ?_
    rw [Function.comp_apply, any_sameKey_str_iff, mem_map_str_iff, decide_eq_true_iff]
  rw [orderedKeys_eq, hlisted, orderedSlugs, List.map_append, List.filter_map]
  congr 2
  refine List.filter_congr fun slug hslug => Bool.eq_iff_iff.mpr ?_
  rw [Function.comp_apply, Bool.not_eq_true', ← Bool.not_eq_true, any_sameKey_str_iff,
    mem_map_str_iff, List.mem_filter, List.mem_eraseDups, decide_eq_true_iff, decide_eq_true_iff]
  simp [hslug]

/-- Without repetitions, slugs stand in the order in which they first come up. -/
theorem pairwise_eraseDups (slugs : List String) :
    slugs.eraseDups.Pairwise fun earlier later => slugs.idxOf earlier < slugs.idxOf later := by
  induction slugs using List.reverseRecOn with
  | nil => exact .nil
  | append_singleton slugs slug ih =>
    have hold : slugs.eraseDups.Pairwise fun earlier later =>
        (slugs ++ [slug]).idxOf earlier < (slugs ++ [slug]).idxOf later := by
      refine ih.imp_of_mem fun {earlier later} hearlier hlater hlt => ?_
      rw [List.mem_eraseDups] at hearlier hlater
      rwa [List.idxOf_append_of_mem hearlier, List.idxOf_append_of_mem hlater]
    rw [eraseDups_concat]
    split_ifs with hmem
    · exact hold
    · refine List.pairwise_append.mpr ⟨hold, List.pairwise_singleton _ _, ?_⟩
      intro earlier hearlier later hlater
      rw [List.mem_eraseDups] at hearlier
      rw [List.mem_singleton.mp hlater, List.idxOf_append_of_mem hearlier,
        List.idxOf_append_of_notMem hmem]
      exact Nat.lt_add_right _ (List.idxOf_lt_length_of_mem hearlier)

/-- Slugs that are all different stand in the order of their places. -/
theorem pairwise_idxOf_of_nodup {slugs : List String} (h : slugs.Nodup) :
    slugs.Pairwise fun earlier later => slugs.idxOf earlier < slugs.idxOf later := by
  rw [List.pairwise_iff_getElem]
  intro i j hi hj hlt
  rwa [h.idxOf_getElem, h.idxOf_getElem]

/-- The breakpoints of a map in the order asked for are arranged. -/
theorem isArrangement_orderedSlugs {slugs : List String} (order : List String)
    (hnodup : slugs.Nodup) : IsArrangement order slugs (orderedSlugs slugs order) := by
  constructor
  case perm =>
    have htexts : ∀ key ∈ slugs.map Scalar.str, ∃ slug, key = .str slug := by simp
    have hinjective : Function.Injective Scalar.str := fun _ _ => Scalar.str.inj
    have hkeys := @orderedKeys_perm _ (order.map .str) htexts (hnodup.map hinjective)
    rwa [orderedKeys_texts, List.map_perm_map_iff hinjective] at hkeys
  case pairwise =>
    have hlisted : ∀ slug ∈ order.eraseDups.filter (· ∈ slugs), slug ∈ order := fun _ hslug =>
      List.mem_eraseDups.mp (List.mem_of_mem_filter hslug)
    have hothers : ∀ slug ∈ slugs.filter (· ∉ order), slug ∉ order := by simp
    rw [orderedSlugs, List.pairwise_append]
    refine ⟨?_, ?_, ?_⟩
    · refine ((pairwise_eraseDups order).filter _).imp_of_mem ?_
      intro earlier later hearlier hlater hlt
      exact ⟨fun _ => ⟨hlisted _ hearlier, hlt⟩, fun hother => absurd (hlisted _ hlater) hother⟩
    · refine ((pairwise_idxOf_of_nodup hnodup).filter _).imp_of_mem ?_
      intro earlier later _ hlater hlt
      exact ⟨fun hmem => absurd hmem (hothers _ hlater), fun _ => .inr hlt⟩
    · intro earlier hearlier later hlater
      exact ⟨fun hmem => absurd hmem (hothers _ hlater), fun _ => .inl (hlisted _ hearlier)⟩

/-- Where all breakpoints are listed, how they stand in the map makes no difference. -/
theorem orderedSlugs_eq_of_perm {slugs slugs' order : List String} (hperm : slugs'.Perm slugs)
    (hlisted : ∀ slug ∈ slugs, slug ∈ order) :
    orderedSlugs slugs' order = orderedSlugs slugs order := by
  have hnone : slugs.filter (· ∉ order) = [] := by simpa using hlisted
  have hnone' : slugs'.filter (· ∉ order) = [] := by
    simpa using fun slug hslug => hlisted slug (hperm.mem_iff.mp hslug)
  rw [orderedSlugs, orderedSlugs, hnone, hnone']
  congr 2
  exact funext fun slug => decide_eq_decide.mpr hperm.mem_iff

/-! ### Maps with the same entries -/

/-- The entries of a map whose keys are texts. -/
def entriesOf (fields : Keyed Value) : Value.Entries :=
  fields.map fun (name, value) => (.str name, value)

theorem map_fst_entriesOf (fields : Keyed Value) :
    (entriesOf fields).map (·.1) = fields.names.map .str := by
  rw [entriesOf, Keyed.names, List.map_map, List.map_map]
  rfl

/-- The same entries in an order of one's own. -/
theorem exists_perm_of_names {fields : Keyed Value} {names : List String}
    (h : names.Perm fields.names) : ∃ fields' : Keyed Value, fields'.Perm fields ∧
      fields'.names = names := by
  have hcomp := congrFun₂ (List.eq_map_comp_perm (Prod.fst : String × Value → String)) names fields
  obtain ⟨fields', hnames, hperm⟩ := hcomp.mpr h
  exact ⟨fields', hperm, hnames.symm⟩

/-- What is found at some breakpoints determines the classes there. -/
theorem classesAt_congr (category : StyleCategory) {entries entries' : Value.Entries}
    {keys : List Scalar} (h : ∀ key ∈ keys, entries.find? key = entries'.find? key) :
    classesAt category entries keys = classesAt category entries' keys := by
  induction keys with
  | nil => rfl
  | cons key keys ih =>
    obtain ⟨hkey, hkeys⟩ := List.forall_mem_cons.mp h
    rw [classesAt, classesAt, hkey, ih hkeys]

/-- The classes of a map whose keys are texts: those at its breakpoints in the order asked for. -/
theorem compileResponsive_ofFields (category : Value) {fields : Keyed Value} (hne : fields ≠ [])
    (order : Option (List String)) :
    compileResponsive category (.ofFields fields) (orderData order) = do
      let known ← Noted.quiet (categoryOfValue category)
      let classes ← classesAt known (entriesOf fields)
        ((orderedSlugs fields.names (order.getD [])).map .str)
      return withMarker known classes := by
  obtain ⟨field, rest, rfl⟩ := List.exists_cons_of_ne_nil hne
  rw [← orderedKeys_texts, ← map_fst_entriesOf]
  have hresponsive : ∀ known, responsiveClassesOfValue known (.ofFields (field :: rest))
      (orderData order) = responsiveClasses known (entriesOf (field :: rest))
        ((order.getD []).map .str) := by
    intro known
    change Noted.quiet (breakpointOrder (orderData order)) >>= _ = _
    rw [breakpointOrder_orderData]
    rfl
  change (Noted.quiet (categoryOfValue category) >>= fun known =>
    responsiveClassesOfValue known (.ofFields (field :: rest)) (orderData order)) = _
  simp only [hresponsive]
  rfl

/-- Maps with the same entries have the same classes if their breakpoints come in the same order. -/
theorem compileResponsive_eq_of_perm (category : Value) {fields fields' : Keyed Value}
    {order order' : Option (List String)} (hperm : fields'.Perm fields)
    (hnodup : fields.names.Nodup)
    (hslugs : orderedSlugs fields'.names (order'.getD []) =
      orderedSlugs fields.names (order.getD [])) :
    compileResponsive category (.ofFields fields') (orderData order') =
      compileResponsive category (.ofFields fields) (orderData order) := by
  by_cases hne : fields = []
  · rw [hne, List.perm_nil] at hperm
    rw [hne, hperm]
    rfl
  · have hne' : fields' ≠ [] := fun hnil => hne (List.perm_nil.mp (hnil ▸ hperm).symm)
    have hkeys : ((entriesOf fields').map (·.1)).Nodup := by
      rw [map_fst_entriesOf]
      exact ((hperm.map _).nodup_iff.mpr hnodup).map fun _ _ => Scalar.str.inj
    have hfound : ∀ key ∈ (orderedSlugs fields.names (order.getD [])).map Scalar.str,
        (entriesOf fields').find? key = (entriesOf fields).find? key := by
      intro key hkey
      obtain ⟨slug, -, rfl⟩ := List.mem_map.mp hkey
      exact Value.Entries.get?_eq_of_perm (hperm.map _) hkeys slug
    rw [compileResponsive_ofFields category hne, compileResponsive_ofFields category hne', hslugs]
    simp only [classesAt_congr _ hfound]

/-- A list of breakpoints arranges those of a map: the listed ones first, by their first place in
the list, then the others as they stand in the map. A map that is put together in this arrangement
has the same classes without the list; and where all breakpoints are listed, the order of entries
makes no difference. -/
theorem breakpoints_arranged (fields : Keyed Value) (order : Option (List String))
    (hnodup : fields.names.Nodup) :
    (∃ slugs, orderedBreakpoints (.ofFields fields) (orderData order) = .ok (slugs.map .str) ∧
      IsArrangement (order.getD []) fields.names slugs ∧
      (∀ other, IsArrangement (order.getD []) fields.names other → other = slugs) ∧
      (∃ arranged : Keyed Value, arranged.Perm fields ∧ arranged.names = slugs) ∧
      ∀ arranged : Keyed Value, arranged.Perm fields → arranged.names = slugs →
        ∀ category, compileResponsive category (.ofFields fields) (orderData order) =
          compileResponsive category (.ofFields arranged) .null) ∧
    ((∀ slug ∈ fields.names, slug ∈ order.getD []) →
      ∀ fields' : Keyed Value, fields'.Perm fields →
        ∀ category, compileResponsive category (.ofFields fields') (orderData order) =
          compileResponsive category (.ofFields fields) (orderData order)) := by
  have harrangement := isArrangement_orderedSlugs (order.getD []) hnodup
  constructor
  · refine ⟨orderedSlugs fields.names (order.getD []), ?_, harrangement,
      fun other hother => hother.unique harrangement,
      exists_perm_of_names harrangement.perm, fun arranged hperm hnames category => ?_⟩
    · rw [Value.ofFields, orderedBreakpoints_orderData, ← orderedKeys_texts, ← map_fst_entriesOf]
      rfl
    · have hslugs : orderedSlugs arranged.names [] = orderedSlugs fields.names (order.getD []) := by
        rw [hnames, orderedSlugs_nil]
      exact (@compileResponsive_eq_of_perm category _ _ order none hperm hnodup hslugs).symm
  · intro hlisted fields' hperm category
    exact compileResponsive_eq_of_perm category hperm hnodup
      (orderedSlugs_eq_of_perm (hperm.map _) hlisted)

/-- A gap at four breakpoints. -/
def fourGaps : Keyed Value :=
  [("md", .str "4"), ("lg", .str "6"), ("base", .str "2"), ("sm", .str "1")]

/-- With a list that holds one breakpoint twice, one that the map has not, and not all that it has,
that gap is arranged; and it has the same classes as one that is put together in this arrangement.
Where all its breakpoints are listed, its entries may also stand the other way round. -/
theorem breakpoints_arranged_fourGaps :
    fourGaps.names.Nodup ∧
      orderedBreakpoints (.ofFields fourGaps) (orderData (some ["base", "xl", "base", "md"])) =
        .ok (["base", "md", "lg", "sm"].map .str) ∧
      IsArrangement ["base", "xl", "base", "md"] fourGaps.names ["base", "md", "lg", "sm"] ∧
      (∀ category, compileResponsive category (.ofFields fourGaps)
          (orderData (some ["base", "xl", "base", "md"])) =
        compileResponsive category (.ofFields
          [("base", .str "2"), ("md", .str "4"), ("lg", .str "6"), ("sm", .str "1")]) .null) ∧
      (∀ slug ∈ fourGaps.names, slug ∈ ["sm", "base", "lg", "md"]) ∧
      ∀ category, compileResponsive category (.ofFields fourGaps.reverse)
          (orderData (some ["sm", "base", "lg", "md"])) =
        compileResponsive category (.ofFields fourGaps)
          (orderData (some ["sm", "base", "lg", "md"])) := by
  have hnodup : fourGaps.names.Nodup := by decide
  have hlisted : ∀ slug ∈ fourGaps.names, slug ∈ ["sm", "base", "lg", "md"] := by decide
  obtain ⟨slugs, hslugs, harrangement, -, -, hclasses⟩ :=
    (breakpoints_arranged fourGaps (some ["base", "xl", "base", "md"]) hnodup).1
  have hordered : orderedBreakpoints (.ofFields fourGaps)
      (orderData (some ["base", "xl", "base", "md"])) = .ok (["base", "md", "lg", "sm"].map .str) :=
    rfl
  have hsame : slugs = ["base", "md", "lg", "sm"] :=
    List.map_injective_iff.mpr (fun _ _ => Scalar.str.inj)
      (Except.ok.inj (hslugs.symm.trans hordered))
  subst hsame
  refine ⟨hnodup, hordered, harrangement, hclasses _ ?_ rfl, hlisted, ?_⟩
  · exact (@List.perm_middle (String × Value) ("base", .str "2")
      [("md", .str "4"), ("lg", .str "6")] [("sm", .str "1")]).symm
  · exact (breakpoints_arranged fourGaps (some ["sm", "base", "lg", "md"]) hnodup).2 hlisted _
      (List.reverse_perm _)

end StyleTokens
