import Mathlib.Data.List.Induction
import Mathlib.Data.List.Nodup
import Mathlib.Tactic.SplitIfs
import StyleTokens.Keyed

/-!
# Looking things up by name

What stands under a name after a thing was put under one, after things were taken out by their
names, and after all of them got other names.
-/

namespace StyleTokens

/-- A name at the end is dropped if it came up before. -/
theorem eraseDups_concat (names : List String) (name : String) :
    (names ++ [name]).eraseDups =
      if name ∈ names then names.eraseDups else names.eraseDups ++ [name] := by
  rw [List.eraseDups_append]
  split_ifs with hmem
  · simp [List.removeAll, hmem]
  · simp [List.removeAll, hmem, List.eraseDups_cons]

/-- No name comes up twice once repeated names are dropped. -/
theorem nodup_eraseDups (names : List String) : names.eraseDups.Nodup := by
  induction names using List.reverseRecOn with
  | nil => exact List.nodup_nil
  | append_singleton names name ih =>
    rw [eraseDups_concat]
    split_ifs with hmem
    · exact ih
    · rw [← List.concat_eq_append, List.nodup_concat, List.mem_eraseDups]
      exact ⟨hmem, ih⟩

namespace Keyed

variable {α β : Type}

@[simp] theorem find?_nil (name : String) : find? ([] : Keyed α) name = none := rfl

theorem find?_cons (entry : String × α) (rest : Keyed α) (name : String) :
    find? (entry :: rest) name = if entry.1 = name then some entry.2 else find? rest name := by
  by_cases h : entry.1 = name <;> simp [find?, h]

/-- What is found under a name is there. -/
theorem mem_of_find?_eq_some {things : Keyed α} {name : String} {thing : α}
    (h : things.find? name = some thing) : (name, thing) ∈ things := by
  obtain ⟨⟨other, found⟩, hfound, rfl⟩ := Option.map_eq_some_iff.mp h
  have hname : other = name := by simpa using List.find?_some hfound
  exact hname ▸ List.mem_of_find?_eq_some hfound

/-- A thing put under a name stands there, and nothing else has changed. -/
theorem find?_put (things : Keyed α) (name other : String) (thing : α) :
    (things.put name thing).find? other =
      if name = other then some thing else things.find? other := by
  induction things with
  | nil => simp [put, find?_cons]
  | cons first rest ih =>
    by_cases hfirst : first.1 = name
    · rw [put, if_pos hfirst, find?_cons, find?_cons]
      by_cases hsame : name = other
      · rw [if_pos hsame, if_pos hsame]
      · rw [if_neg hsame, if_neg hsame, if_neg (hfirst ▸ hsame)]
    · rw [put, if_neg hfirst, find?_cons, find?_cons, ih]
      by_cases hother : first.1 = other
      · rw [if_pos hother, if_pos hother, if_neg fun hsame => hfirst (hother.trans hsame.symm)]
      · rw [if_neg hother, if_neg hother]

/-- Of what was taken out by its name nothing is found, and everything else is. -/
theorem find?_filter (things : Keyed α) (keep : String → Bool) (name : String) :
    find? (things.filter fun entry => keep entry.1) name =
      if keep name then things.find? name else none := by
  induction things with
  | nil => simp
  | cons first rest ih =>
    rw [find?_cons]
    by_cases hkeep : keep first.1 = true
    · rw [List.filter_cons_of_pos (by exact hkeep), find?_cons, ih]
      by_cases hsame : first.1 = name
      · rw [if_pos hsame, if_pos hsame, if_pos (hsame ▸ hkeep)]
      · rw [if_neg hsame, if_neg hsame]
    · rw [List.filter_cons_of_neg (by exact hkeep), ih]
      by_cases hsame : first.1 = name
      · rw [if_neg (hsame ▸ hkeep), if_neg (hsame ▸ hkeep)]
      · rw [if_neg hsame]

/-- What is not there need not be taken out. -/
theorem filter_of_find?_eq_none {things : Keyed α} {name : String} (h : things.find? name = none) :
    (things.filter fun entry => entry.1 != name) = things := by
  refine List.filter_eq_self.mpr fun entry hentry => ?_
  simpa using List.find?_eq_none.mp (Option.map_eq_none_iff.mp h) entry hentry

/-- A thing that was put can be taken out again, with whatever stood under its name. -/
theorem filter_put (things : Keyed α) (name : String) (thing : α) :
    ((things.put name thing).filter fun entry => entry.1 != name) =
      things.filter fun entry => entry.1 != name := by
  induction things with
  | nil => simp [put]
  | cons first rest ih =>
    by_cases hfirst : first.1 = name
    · rw [put, if_pos hfirst, List.filter_cons_of_neg (by simp),
        List.filter_cons_of_neg (by simpa using hfirst)]
    · rw [put, if_neg hfirst, List.filter_cons_of_pos (by simpa using hfirst),
        List.filter_cons_of_pos (by simpa using hfirst), ih]

/-- What is there comes from the things before, or is what was put. -/
theorem mem_put {things : Keyed α} {name : String} {thing : α} {entry : String × α}
    (h : entry ∈ things.put name thing) : entry = (name, thing) ∨ entry ∈ things := by
  induction things with
  | nil => exact .inl (List.mem_singleton.mp h)
  | cons first rest ih =>
    by_cases hfirst : first.1 = name
    · rw [put, if_pos hfirst] at h
      exact (List.mem_cons.mp h).imp_right (List.mem_cons_of_mem first)
    · rw [put, if_neg hfirst] at h
      rcases List.mem_cons.mp h with rfl | h
      · exact .inr List.mem_cons_self
      · exact (ih h).imp_right (List.mem_cons_of_mem first)

/-- No name comes up twice when a thing is put. -/
theorem nodup_names_put {things : Keyed α} (h : things.names.Nodup) (name : String) (thing : α) :
    (things.put name thing).names.Nodup := by
  unfold names at h ⊢
  induction things with
  | nil => simp [put]
  | cons first rest ih =>
    rw [List.map_cons, List.nodup_cons] at h
    by_cases hfirst : first.1 = name
    · rw [put, if_pos hfirst, List.map_cons, List.nodup_cons]
      exact ⟨hfirst ▸ h.1, h.2⟩
    · rw [put, if_neg hfirst, List.map_cons, List.nodup_cons]
      refine ⟨fun hmem => ?_, ih h.2⟩
      obtain ⟨entry, hentry, heq⟩ := List.mem_map.mp hmem
      rcases mem_put hentry with rfl | hentry
      · exact hfirst heq.symm
      · exact h.1 (List.mem_map.mpr ⟨entry, hentry, heq⟩)

/-- A new name comes last, and one that was there stays where it was. -/
theorem names_put (things : Keyed α) (name : String) (thing : α) :
    (things.put name thing).names =
      if name ∈ things.names then things.names else things.names ++ [name] := by
  unfold names
  induction things with
  | nil => rfl
  | cons first rest ih =>
    by_cases hfirst : first.1 = name
    · rw [put, if_pos hfirst, List.map_cons, List.map_cons, hfirst, if_pos List.mem_cons_self]
    · have hmem : name ∈ (first :: rest).map (·.1) ↔ name ∈ rest.map (·.1) := by
        rw [List.map_cons, List.mem_cons]
        exact or_iff_right fun heq => hfirst heq.symm
      rw [put, if_neg hfirst, List.map_cons, ih]
      simp only [hmem]
      split_ifs <;> rfl

/-- A thing under a new name comes last. -/
theorem put_of_notMem {things : Keyed α} {name : String} (h : name ∉ things.names) (thing : α) :
    things.put name thing = things ++ [(name, thing)] := by
  unfold names at h
  induction things with
  | nil => rfl
  | cons first rest ih =>
    rw [List.map_cons, List.mem_cons, not_or] at h
    rw [put, if_neg fun heq => h.1 heq.symm, ih h.2, List.cons_append]

/-- Things under the same names that are all among others are the same things, where no name comes
up twice. -/
theorem eq_of_names_eq {things others : Keyed α} (hnames : things.names = others.names)
    (hnodup : things.names.Nodup) (hmem : ∀ entry ∈ things, entry ∈ others) : things = others := by
  unfold names at hnames hnodup
  induction things generalizing others with
  | nil => exact (List.map_eq_nil_iff.mp hnames.symm).symm
  | cons first rest ih =>
    obtain ⟨other, others, rfl, hname, hrest⟩ := List.map_eq_cons_iff.mp hnames.symm
    obtain ⟨hfirst, hrestNodup⟩ := List.nodup_cons.mp hnodup
    -- Behind the first name it does not come up again, so what stands there is the same thing.
    have hsame : first = other := by
      refine (List.mem_cons.mp (hmem first List.mem_cons_self)).resolve_right fun hlater => ?_
      exact hfirst (hrest ▸ List.mem_map_of_mem hlater)
    have hmemRest : ∀ entry ∈ rest, entry ∈ others := by
      intro entry hentry
      refine (List.mem_cons.mp (hmem entry (List.mem_cons_of_mem _ hentry))).resolve_left ?_
      rintro rfl
      exact hfirst (hname ▸ List.mem_map_of_mem hentry)
    rw [hsame, ih hrest.symm hrestNodup hmemRest]

/-- Where no name comes up twice, everything is found under its name. -/
theorem find?_eq_some_of_mem {things : Keyed α} (h : things.names.Nodup) {name : String} {thing : α}
    (hmem : (name, thing) ∈ things) : things.find? name = some thing := by
  unfold names at h
  induction things with
  | nil => cases hmem
  | cons first rest ih =>
    rw [List.map_cons, List.nodup_cons] at h
    rw [find?_cons]
    rcases List.mem_cons.mp hmem with rfl | hmem
    · rw [if_pos rfl]
    · have hne : first.1 ≠ name := fun heq => h.1 (List.mem_map.mpr ⟨_, hmem, heq.symm⟩)
      rw [if_neg hne, ih h.2 hmem]

section OfList

variable {pairs : List (String × α)}

/-- A list with one more item at its end, taken apart at some item. -/
private theorem concat_eq_append_cons_iff {γ : Type} {items before after : List γ} {last item : γ} :
    items ++ [last] = before ++ item :: after ↔
      (after = [] ∧ items = before ∧ last = item) ∨
        ∃ init, after = init ++ [last] ∧ items = before ++ item :: init := by
  constructor
  · intro h
    rcases List.eq_nil_or_concat after with rfl | ⟨init, other, rfl⟩
    · obtain ⟨hitems, hlast⟩ := List.append_inj' h rfl
      exact Or.inl ⟨rfl, hitems, List.singleton_inj.mp hlast⟩
    · rw [List.concat_eq_append, ← List.cons_append, ← List.append_assoc] at h
      obtain ⟨hitems, hlast⟩ := List.append_inj' h rfl
      exact Or.inr ⟨init, by rw [List.concat_eq_append, List.singleton_inj.mp hlast], hitems⟩
  · rintro (⟨rfl, rfl, rfl⟩ | ⟨init, rfl, rfl⟩)
    · rfl
    · simp

theorem ofList_concat (pairs : List (String × α)) (pair : String × α) :
    ofList (pairs ++ [pair]) = (ofList pairs).put pair.1 pair.2 := by
  rw [ofList, List.foldl_append]
  rfl

/-- Of things put one after the other no name comes up twice. -/
theorem nodup_names_ofList (pairs : List (String × α)) : (ofList pairs).names.Nodup := by
  induction pairs using List.reverseRecOn with
  | nil => exact List.nodup_nil
  | append_singleton pairs pair ih =>
    rw [ofList_concat]
    exact nodup_names_put ih _ _

/-- Things under different names stay as they are when they are put one after the other. -/
theorem ofList_of_nodup (h : (pairs.map (·.1)).Nodup) : ofList pairs = pairs := by
  induction pairs using List.reverseRecOn with
  | nil => rfl
  | append_singleton pairs pair ih =>
    rw [List.map_append, List.map_singleton, ← List.concat_eq_append, List.nodup_concat] at h
    rw [ofList_concat, ih h.2, put_of_notMem h.1]

/-- The names of things put one after the other stand where they first came up. -/
theorem names_ofList (pairs : List (String × α)) :
    (ofList pairs).names = (pairs.map (·.1)).eraseDups := by
  induction pairs using List.reverseRecOn with
  | nil => rfl
  | append_singleton pairs pair ih =>
    rw [ofList_concat, names_put, ih, List.map_append, List.map_singleton, eraseDups_concat]
    simp only [List.mem_eraseDups]

/-- Of things put one after the other, the last one under a name is found. -/
theorem find?_ofList_eq_some_iff {name : String} {thing : α} :
    (ofList pairs).find? name = some thing ↔
      ∃ before after, pairs = before ++ (name, thing) :: after ∧ name ∉ after.map (·.1) := by
  induction pairs using List.reverseRecOn with
  | nil => simp [ofList]
  | append_singleton pairs pair ih =>
    rw [ofList_concat, find?_put]
    by_cases hname : pair.1 = name
    · rw [if_pos hname]
      constructor
      · intro h
        refine ⟨pairs, [], ?_, by simp⟩
        rw [← hname, ← Option.some.inj h]
      · rintro ⟨before, after, heq, hafter⟩
        rcases concat_eq_append_cons_iff.mp heq with ⟨-, -, hpair⟩ | ⟨init, hlast, -⟩
        · rw [hpair]
        · exact absurd (by simp [hlast, hname]) hafter
    · rw [if_neg hname, ih]
      constructor
      · rintro ⟨before, after, rfl, hafter⟩
        refine ⟨before, after ++ [pair], by simp, ?_⟩
        rw [List.map_append, List.mem_append, not_or]
        exact ⟨hafter, fun hmem => hname (List.mem_singleton.mp hmem).symm⟩
      · rintro ⟨before, after, heq, hafter⟩
        rcases concat_eq_append_cons_iff.mp heq with ⟨-, -, hpair⟩ | ⟨init, hlast, hpairs⟩
        · exact absurd (by rw [hpair]) hname
        · refine ⟨before, init, hpairs, fun hmem => hafter ?_⟩
          rw [hlast, List.map_append]
          exact List.mem_append_left _ hmem

/-- What stands under a name among things put one after the other is the last one put there. -/
theorem mem_ofList_iff {name : String} {thing : α} :
    (name, thing) ∈ ofList pairs ↔
      ∃ before after, pairs = before ++ (name, thing) :: after ∧ name ∉ after.map (·.1) := by
  rw [← find?_ofList_eq_some_iff]
  exact ⟨find?_eq_some_of_mem (nodup_names_ofList pairs), mem_of_find?_eq_some⟩

end OfList

/-- Where no name comes up twice, taking out a thing by its name leaves everything else. -/
theorem filter_append_cons {before rest : Keyed α} {name : String} {thing : α}
    (h : names (before ++ (name, thing) :: rest) |>.Nodup) :
    ((before ++ (name, thing) :: rest).filter fun entry => entry.1 != name) = before ++ rest := by
  rw [names, List.map_append, List.map_cons, List.perm_middle.nodup_iff, List.nodup_cons,
    ← List.map_append] at h
  rw [List.filter_append, List.filter_cons_of_neg (by simp), ← List.filter_append]
  refine List.filter_eq_self.mpr fun entry hentry => ?_
  simpa using fun heq : entry.1 = name => h.1 (List.mem_map.mpr ⟨entry, hentry, heq⟩)

section Renamed

variable (rename : String → String) (convert : String → α → β)

/-- The things under other names, and converted. -/
def renamed (things : Keyed α) : Keyed β :=
  things.map fun entry => (rename entry.1, convert entry.1 entry.2)

variable {rename} {things : Keyed α} {name : String}

/-- What got a name of its own is found under it. -/
theorem find?_renamed (h : ∀ other ∈ things.names, rename other = rename name → other = name) :
    (renamed rename convert things).find? (rename name) =
      (things.find? name).map (convert name) := by
  unfold renamed names at *
  induction things with
  | nil => rfl
  | cons first rest ih =>
    rw [List.map_cons, List.forall_mem_cons] at h
    rw [List.map_cons, find?_cons, find?_cons]
    by_cases hfirst : first.1 = name
    · rw [if_pos (congrArg rename hfirst), if_pos hfirst, hfirst, Option.map_some]
    · rw [if_neg fun heq => hfirst (h.1 heq), if_neg hfirst]
      exact ih h.2

/-- Putting a thing and renaming may be exchanged. -/
theorem renamed_put (h : ∀ other ∈ things.names, rename other = rename name → other = name)
    (thing : α) :
    renamed rename convert (things.put name thing) =
      (renamed rename convert things).put (rename name) (convert name thing) := by
  unfold renamed names at *
  induction things with
  | nil => rfl
  | cons first rest ih =>
    rw [List.map_cons, List.forall_mem_cons] at h
    rw [List.map_cons, put, put]
    by_cases hfirst : first.1 = name
    · rw [if_pos hfirst, if_pos (congrArg rename hfirst), List.map_cons]
    · rw [if_neg hfirst, if_neg fun heq => hfirst (h.1 heq), List.map_cons, ih h.2]

/-- Taking out a thing and renaming may be exchanged. -/
theorem renamed_filter (h : ∀ other ∈ things.names, rename other = rename name → other = name) :
    renamed rename convert (things.filter fun entry => entry.1 != name) =
      (renamed rename convert things).filter fun entry => entry.1 != rename name := by
  unfold renamed names at *
  induction things with
  | nil => rfl
  | cons first rest ih =>
    rw [List.map_cons, List.forall_mem_cons] at h
    rw [List.map_cons]
    by_cases hfirst : first.1 = name
    · rw [List.filter_cons_of_neg (by simpa using hfirst),
        List.filter_cons_of_neg (by simp [hfirst]), ih h.2]
    · have hne : rename first.1 ≠ rename name := fun heq => hfirst (h.1 heq)
      rw [List.filter_cons_of_pos (by simpa using hfirst), List.map_cons,
        List.filter_cons_of_pos (by simpa using hne), ih h.2]

end Renamed

end Keyed

end StyleTokens
