import Mathlib.Algebra.Order.Ring.Int
import Mathlib.Tactic.SplitIfs
import StyleTokens.Text.Case

/-!
# Lower case stays lower case

No run of the lower-case table contains an image of the table, so a text in lower case is its own
lower-case image, wherever its characters stand.
-/

namespace StyleTokens.Text

/-- No image of a run is in another run: the images end before it begins, or begin after it ends, or
stand between its members. -/
def CaseRun.avoids (run other : CaseRun) : Bool :=
  Nat.blt (run.last + run.shift).toNat other.first ||
    Nat.blt other.last (run.first + run.shift).toNat ||
    (run.first == run.last || run.step % other.step == 0) &&
      (run.first + run.shift - other.first) % other.step != 0

theorem CaseRun.contains_iff {run : CaseRun} {code : Nat} :
    run.contains code = true ↔
      run.first ≤ code ∧ code ≤ run.last ∧ run.step ∣ code - run.first := by
  simp [CaseRun.contains, Nat.dvd_iff_mod_eq_zero, and_assoc]

/-- The image of a member of a run is in no run that its images avoid. -/
theorem CaseRun.not_contains_image {run other : CaseRun} (h : run.avoids other = true)
    {code image : Nat} (hcode : run.contains code = true)
    (himage : (image : Int) = code + run.shift) : other.contains image = false := by
  rw [Bool.eq_false_iff]
  intro hcontains
  obtain ⟨hfirst, hlast, hstep⟩ := CaseRun.contains_iff.mp hcode
  obtain ⟨hfirst', hlast', hstep'⟩ := CaseRun.contains_iff.mp hcontains
  simp only [avoids, Bool.or_eq_true, Bool.and_eq_true, Nat.blt_eq, beq_iff_eq, bne_iff_ne,
    ← Nat.dvd_iff_mod_eq_zero, ne_eq, ← Int.dvd_iff_emod_eq_zero] at h
  rcases h with (hbefore | hafter) | ⟨hsteps, hbetween⟩
  · omega
  · omega
  · have hmember : (other.step : Int) ∣ code - run.first := by
      rcases hsteps with hsingle | hdvd
      · rw [show (code : Int) - run.first = 0 by omega]
        exact Int.dvd_zero _
      · have hdistance := Int.natCast_dvd_natCast.mpr (hdvd.trans hstep)
        rwa [Int.natCast_sub hfirst] at hdistance
    have himage' : (other.step : Int) ∣ image - other.first := by
      have hdistance := Int.natCast_dvd_natCast.mpr hstep'
      rwa [Int.natCast_sub hfirst'] at hdistance
    refine hbetween ?_
    rw [show (run.first : Int) + run.shift - other.first =
      (image - other.first) - (code - run.first) by omega]
    exact Int.dvd_sub himage' hmember

/-- What is looked up is there. -/
theorem mem_of_lookup_eq_some {α : Type} {pairs : List (Nat × α)} {code : Nat} {found : α}
    (h : pairs.lookup code = some found) : (code, found) ∈ pairs := by
  obtain ⟨before, after, rfl, -⟩ := List.lookup_eq_some_iff.mp h
  simp

/-- A code point that the lower-case table leaves alone. -/
def IsFixed (code : Nat) : Prop :=
  lowerExpansions.lookup code = none ∧ ∀ run ∈ lowerRuns, run.contains code = false

instance (code : Nat) : Decidable (IsFixed code) := by
  unfold IsFixed
  infer_instance

/-- The lower-case table does not change its own images. -/
theorem lowerRuns_avoid :
    (lowerRuns.all fun run => lowerRuns.all fun other => run.avoids other) = true := by
  decide +kernel

/-- The one character with a longer image is no image either. -/
theorem lowerRuns_avoid_expansion :
    (lowerRuns.all fun run => run.avoids ⟨0x130, 0x130, 1, 0⟩) = true := by
  decide +kernel

/-- The images of the lower-case table are characters. -/
theorem lowerRuns_bounds : ∀ run ∈ lowerRuns, 0 ≤ run.first + run.shift ∧
    (run.last + run.shift < 0xD800 ∨
      0xDFFF < run.first + run.shift ∧ run.last + run.shift < 0x110000) := by
  decide +kernel

/-- The image of the one character with a longer image is left alone. -/
theorem isFixed_expansion :
    ∀ pair ∈ lowerExpansions, ∀ code ∈ pair.2, code < 0xD800 ∧ IsFixed code := by
  decide +kernel

/-- The images of a run are left alone. -/
theorem isFixed_image {run : CaseRun} (hrun : run ∈ lowerRuns) {code image : Nat}
    (hcode : run.contains code = true) (himage : (image : Int) = code + run.shift) :
    IsFixed image := by
  have havoid := List.all_eq_true.mp (List.all_eq_true.mp lowerRuns_avoid run hrun)
  have hexpansion := List.all_eq_true.mp lowerRuns_avoid_expansion run hrun
  refine ⟨?_, fun other hother => CaseRun.not_contains_image (havoid other hother) hcode himage⟩
  have hother := CaseRun.not_contains_image hexpansion hcode himage
  have hne : (image == 0x130) = false := by
    rw [beq_eq_false_iff_ne]
    rintro rfl
    revert hother
    decide
  rw [lowerExpansions, List.lookup_cons, hne]
  rfl

/-- Beyond the capital letters of ASCII, no run begins in ASCII. -/
theorem lowerRuns_ascii : ∀ run ∈ lowerRuns,
    run.first = 0x41 ∧ run.last = 0x5A ∨ 0x80 ≤ run.first := by
  decide +kernel

/-- In ASCII, all but the capital letters is left alone. -/
theorem isFixed_of_ascii {code : Nat} (hascii : code < 0x80)
    (hcapital : ¬(0x41 ≤ code ∧ code ≤ 0x5A)) : IsFixed code := by
  have hne : (code == 0x130) = false := by
    rw [beq_eq_false_iff_ne]
    omega
  constructor
  · rw [lowerExpansions, List.lookup_cons, hne]
    rfl
  · intro run hrun
    rw [Bool.eq_false_iff]
    intro hcontains
    obtain ⟨hfirst, hlast, -⟩ := CaseRun.contains_iff.mp hcontains
    rcases lowerRuns_ascii run hrun with ⟨hbegin, hend⟩ | hbeyond
    · exact hcapital ⟨hbegin ▸ hfirst, hend ▸ hlast⟩
    · omega

/-- In ASCII, lower case leaves no capital letter, and changes nothing else. -/
theorem toLower_ascii : ∀ code < 0x80,
    ((Char.ofNat code).toLower.toNat < 0x80 ∧
      ¬(0x41 ≤ (Char.ofNat code).toLower.toNat ∧ (Char.ofNat code).toLower.toNat ≤ 0x5A)) ∧
    (¬(0x41 ≤ code ∧ code ≤ 0x5A) → (Char.ofNat code).toLower = Char.ofNat code) := by
  decide

/-- A character that is its own lower-case image, wherever it stands. -/
def IsSmall (c : Char) : Prop := IsFixed c.toNat

/-- A small character is no capital letter of ASCII. -/
theorem IsSmall.not_capital {c : Char} (h : IsSmall c) : ¬('A' ≤ c ∧ c ≤ 'Z') := by
  rintro ⟨hfirst, hlast⟩
  have hcontains : CaseRun.contains ⟨0x41, 0x5A, 1, 32⟩ c.toNat = true :=
    CaseRun.contains_iff.mpr ⟨hfirst, hlast, one_dvd _⟩
  rw [h.2 _ (List.Mem.head _)] at hcontains
  cases hcontains

/-- A small character is not the capital sigma. -/
theorem IsSmall.ne_capitalSigma {c : Char} (h : IsSmall c) : c ≠ capitalSigma := by
  rintro rfl
  revert h
  unfold IsSmall
  decide +kernel

/-- A small character has no image but itself. -/
theorem IsSmall.lowerChar_eq {c : Char} (h : IsSmall c) : lowerChar c = [c] := by
  unfold lowerChar
  by_cases hascii : c.toNat < 0x80
  · have hsame := (toLower_ascii c.toNat hascii).2 h.not_capital
    rw [Char.ofNat_toNat] at hsame
    rw [if_pos hascii, hsame]
  · have hnone : lowerRuns.find? (·.contains c.toNat) = none :=
      List.find?_eq_none.mpr fun run hrun => by simp [h.2 run hrun]
    rw [if_neg hascii, caseImage, h.1, hnone]

/-- The character at a code point that is left alone is small. -/
theorem isSmall_ofNat {code : Nat} (hvalid : code.isValidChar) (h : IsFixed code) :
    IsSmall (Char.ofNat code) := by
  have hcode : (Char.ofNat code).toNat = code := by
    rw [Char.ofNat, dif_pos hvalid]
    rfl
  unfold IsSmall
  rwa [hcode]

/-- The characters of an image are small. -/
theorem isSmall_of_mem_lowerChar {c d : Char} (h : d ∈ lowerChar c) : IsSmall d := by
  unfold lowerChar at h
  by_cases hascii : c.toNat < 0x80
  · rw [if_pos hascii] at h
    obtain ⟨⟨hlower, hcapital⟩, -⟩ := toLower_ascii c.toNat hascii
    rw [Char.ofNat_toNat] at hlower hcapital
    rw [List.mem_singleton.mp h]
    exact isFixed_of_ascii hlower hcapital
  · rw [if_neg hascii] at h
    unfold caseImage at h
    cases hexpansion : lowerExpansions.lookup c.toNat with
    | some codes =>
      rw [hexpansion] at h
      obtain ⟨code, hcode, rfl⟩ := List.mem_map.mp h
      obtain ⟨hbound, hfixed⟩ :=
        isFixed_expansion _ (mem_of_lookup_eq_some hexpansion) code hcode
      exact isSmall_ofNat (Or.inl hbound) hfixed
    | none =>
      rw [hexpansion] at h
      cases hfound : lowerRuns.find? (·.contains c.toNat) with
      | none =>
        rw [hfound] at h
        rw [List.mem_singleton.mp h]
        refine ⟨hexpansion, fun run hrun => ?_⟩
        simpa using List.find?_eq_none.mp hfound run hrun
      | some run =>
        rw [hfound] at h
        rw [List.mem_singleton.mp h]
        have hrun := List.mem_of_find?_eq_some hfound
        have hcontains : run.contains c.toNat = true := by simpa using List.find?_some hfound
        obtain ⟨hfirst, hlast, -⟩ := CaseRun.contains_iff.mp hcontains
        obtain ⟨hstart, hbounds⟩ := lowerRuns_bounds run hrun
        refine isSmall_ofNat ?_ (isFixed_image hrun hcontains (by omega))
        rcases hbounds with hbelow | ⟨habove, hend⟩
        · exact Or.inl (by omega)
        · exact Or.inr ⟨by omega, by omega⟩

/-- The small forms of sigma are small. -/
theorem isSmall_sigma : IsSmall 'ς' ∧ IsSmall 'σ' := by
  unfold IsSmall
  decide +kernel

/-- Whatever comes before a text, its characters in lower case are small. -/
theorem isSmall_of_mem_lowerAfter {before text : List Char} {d : Char}
    (h : d ∈ lowerAfter before text) : IsSmall d := by
  induction text generalizing before with
  | nil => cases h
  | cons c rest ih =>
    rw [lowerAfter] at h
    rcases List.mem_append.mp h with hfirst | hrest
    · by_cases hsigma : c = capitalSigma
      · rw [if_pos hsigma] at hfirst
        rw [List.mem_singleton.mp hfirst]
        split
        · exact isSmall_sigma.1
        · exact isSmall_sigma.2
      · rw [if_neg hsigma] at hfirst
        exact isSmall_of_mem_lowerChar hfirst
    · exact ih hrest

/-- A text of small characters is its own lower case, whatever comes before it. -/
theorem lowerAfter_of_small {before text : List Char} (h : ∀ c ∈ text, IsSmall c) :
    lowerAfter before text = text := by
  induction text generalizing before with
  | nil => rfl
  | cons c rest ih =>
    obtain ⟨hc, hrest⟩ := List.forall_mem_cons.mp h
    rw [lowerAfter, if_neg hc.ne_capitalSigma, hc.lowerChar_eq, ih hrest, List.singleton_append]

/-- The characters of a text in lower case are small. -/
theorem isSmall_of_mem_lower {text : List Char} {d : Char} (h : d ∈ lower text) : IsSmall d :=
  isSmall_of_mem_lowerAfter h

/-- A text of small characters is its own lower case. -/
theorem lower_of_small {text : List Char} (h : ∀ c ∈ text, IsSmall c) : lower text = text :=
  lowerAfter_of_small h

end StyleTokens.Text
