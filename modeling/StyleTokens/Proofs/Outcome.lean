import Mathlib.Data.List.Forall2
import StyleTokens.Noted

/-!
# Outcomes of computations in steps

What the result of a computation says about the results of its steps.
-/

namespace StyleTokens

variable {ν α β ε : Type}

theorem ok_bind (a : α) (rest : α → Except ε β) : (Except.ok a >>= rest) = rest a := rfl

theorem error_bind (fault : ε) (rest : α → Except ε β) :
    (Except.error fault >>= rest) = .error fault := rfl

/-- A computation that goes on succeeds exactly if both of its parts do. -/
@[simp] theorem bind_eq_ok_iff {first : Except ε α} {rest : α → Except ε β} {b : β} :
    (first >>= rest) = .ok b ↔ ∃ a, first = .ok a ∧ rest a = .ok b := by
  cases first with
  | error fault => simp [bind, Except.bind]
  | ok a => simp [bind, Except.bind]

/-- A computation whose result is changed succeeds exactly if it does so itself. -/
@[simp] theorem map_eq_ok_iff {first : Except ε α} {f : α → β} {b : β} :
    first.map f = .ok b ↔ ∃ a, first = .ok a ∧ f a = b := by
  cases first with
  | error fault => simp [Except.map]
  | ok a => simp [Except.map]

/-- A computation that goes on fails exactly if one of its parts does. -/
theorem bind_eq_error_iff {first : Except ε α} {rest : α → Except ε β} {fault : ε} :
    (first >>= rest) = .error fault ↔
      first = .error fault ∨ ∃ a, first = .ok a ∧ rest a = .error fault := by
  cases first with
  | error fault => simp [bind, Except.bind]
  | ok a => simp [bind, Except.bind]

/-- A computation whose result is changed fails exactly if it does so itself. -/
theorem map_eq_error_iff {first : Except ε α} {f : α → β} {fault : ε} :
    first.map f = .error fault ↔ first = .error fault := by
  cases first with
  | error fault => simp [Except.map]
  | ok a => simp [Except.map]

/-- A computation in two steps fails exactly if the first step does or, where that makes a
difference, the second. -/
theorem bind_fault_iff {P : Prop} {first : Except ε α} {rest : α → Except ε β}
    (hrest : ∀ a, first = .ok a → ((∃ fault, rest a = .error fault) ↔ P)) :
    (∃ fault, (first >>= rest) = .error fault) ↔ (∃ fault, first = .error fault) ∨ P := by
  cases first with
  | error fault => simp [error_bind]
  | ok a =>
    rw [ok_bind, hrest a rfl]
    simp

/-- A computation that ends with its last step fails exactly if that step does. -/
theorem bind_ok_fault_iff {first : Except ε α} (f : α → β) :
    (∃ fault, (first >>= fun a => .ok (f a)) = .error fault) ↔ ∃ fault, first = .error fault := by
  have hlast : ∀ a, first = .ok a →
      ((∃ fault : ε, (Except.ok (f a) : Except ε β) = .error fault) ↔ False) := by simp
  rw [bind_fault_iff hlast, or_false]

/-- A computation has a result exactly if it does not fail. -/
theorem exists_ok_iff {outcome : Except ε α} :
    (∃ a, outcome = .ok a) ↔ ¬∃ fault, outcome = .error fault := by
  cases outcome <;> simp

/-- A list of computations fails exactly if one of them does. -/
theorem mapM_fault_iff {f : α → Except ε β} {inputs : List α} :
    (∃ fault, inputs.mapM f = .error fault) ↔
      ∃ input ∈ inputs, ∃ fault, f input = .error fault := by
  induction inputs with
  | nil => simp [pure, Except.pure]
  | cons input inputs ih =>
    rw [List.mapM_cons]
    cases hfirst : f input with
    | error fault => simp [error_bind, hfirst]
    | ok first =>
      rw [ok_bind, List.exists_mem_cons_iff, hfirst, ← ih]
      cases inputs.mapM f with
      | error fault => simp
      | ok rest => simp [ok_bind, pure, Except.pure]

/-- A list of computations succeeds exactly with the results of all of them. -/
theorem mapM_eq_ok_iff {f : α → Except ε β} {inputs : List α} {outputs : List β} :
    inputs.mapM f = .ok outputs ↔
      List.Forall₂ (fun input output => f input = .ok output) inputs outputs := by
  induction inputs generalizing outputs with
  | nil =>
    rw [List.forall₂_nil_left_iff]
    exact ⟨fun h => (Except.ok.inj h).symm, fun h => h ▸ rfl⟩
  | cons input inputs ih =>
    rw [List.mapM_cons, List.forall₂_cons_left_iff, bind_eq_ok_iff]
    constructor
    · rintro ⟨first, hfirst, hmore⟩
      obtain ⟨rest, hrest, heq⟩ := bind_eq_ok_iff.mp hmore
      exact ⟨first, rest, hfirst, ih.mp hrest, (Except.ok.inj heq).symm⟩
    · rintro ⟨first, rest, hfirst, hrest, rfl⟩
      exact ⟨first, hfirst, bind_eq_ok_iff.mpr ⟨rest, ih.mpr hrest, rfl⟩⟩

/-- A list of computations that agree step by step with those of another list. -/
theorem mapM_eq_of_forall₂ {γ : Type} {f : α → Except ε γ} {g : β → Except ε γ}
    {xs : List α} {ys : List β} (h : List.Forall₂ (fun x y => f x = g y) xs ys) :
    xs.mapM f = ys.mapM g := by
  induction h with
  | nil => rfl
  | cons hfirst _ ih => rw [List.mapM_cons, List.mapM_cons, hfirst, ih]

/-- A computation that is mapped over a list, with its results changed. -/
theorem mapM_map_result {γ : Type} (f : α → Except ε β) (g : β → γ) (inputs : List α) :
    (inputs.mapM fun input => (f input).map g) = (inputs.mapM f).map (List.map g) := by
  induction inputs with
  | nil => rfl
  | cons input inputs ih =>
    rw [List.mapM_cons, List.mapM_cons, ih]
    cases f input <;> cases inputs.mapM f <;> rfl

/-- Every result of a list of computations that all succeed is the result of one of them. -/
theorem exists_mem_of_mapM_eq_ok {f : α → Except ε β} {inputs : List α} {outputs : List β}
    (h : inputs.mapM f = .ok outputs) {output : β} (houtput : output ∈ outputs) :
    ∃ input ∈ inputs, f input = .ok output := by
  induction inputs generalizing outputs with
  | nil =>
    cases h
    simp at houtput
  | cons input inputs ih =>
    rw [List.mapM_cons] at h
    obtain ⟨first, hfirst, hmore⟩ := bind_eq_ok_iff.mp h
    obtain ⟨rest, hrest, heq⟩ := bind_eq_ok_iff.mp hmore
    cases heq
    rcases List.mem_cons.mp houtput with rfl | hmem
    · exact ⟨input, by simp, hfirst⟩
    · obtain ⟨other, hother, hsame⟩ := ih hrest hmem
      exact ⟨other, by simp [hother], hsame⟩

/-- Every one of a list of computations that all succeed has its result among the results. -/
theorem exists_result_of_mem {f : α → Except ε β} {inputs : List α} {outputs : List β}
    (h : inputs.mapM f = .ok outputs) {input : α} (hinput : input ∈ inputs) :
    ∃ output ∈ outputs, f input = .ok output := by
  induction mapM_eq_ok_iff.mp h with
  | nil => cases hinput
  | @cons first result inputs outputs hfirst hrest ih =>
    rcases List.mem_cons.mp hinput with rfl | hmem
    · exact ⟨result, List.mem_cons_self, hfirst⟩
    · obtain ⟨output, houtput, hresult⟩ := ih (mapM_eq_ok_iff.mpr hrest) hmem
      exact ⟨output, List.mem_cons_of_mem _ houtput, hresult⟩

namespace Noted

@[simp] theorem outcome_pure (a : α) : (pure a : Noted ν α).outcome = .ok a := rfl

@[simp] theorem outcome_result (a : α) : (result a : Noted ν α).outcome = .ok a := rfl

@[simp] theorem outcome_quiet (outcome : Except Fault α) :
    (quiet outcome : Noted ν α).outcome = outcome := rfl

@[simp] theorem outcome_note (n : ν) : (note n).outcome = .ok () := rfl

/-- Notes have no influence on how a computation goes on. -/
theorem outcome_bind (first : Noted ν α) (rest : α → Noted ν β) :
    (first >>= rest).outcome = first.outcome >>= fun a => (rest a).outcome := by
  change (first.next rest).outcome = _
  unfold next
  cases first.outcome with
  | error fault => rfl
  | ok a => rfl

/-- Notes have no influence on the outcome of a list of computations. -/
theorem outcome_mapM (f : α → Noted ν β) (inputs : List α) :
    (inputs.mapM f).outcome = inputs.mapM fun input => (f input).outcome := by
  have hloop : ∀ results, (List.mapM.loop f inputs results).outcome =
      List.mapM.loop (fun input => (f input).outcome) inputs results := by
    induction inputs with
    | nil => exact fun results => rfl
    | cons input inputs ih =>
      intro results
      rw [List.mapM.loop, List.mapM.loop, outcome_bind]
      simp only [ih]
  exact hloop []

/-- A computation that goes on succeeds exactly if both of its parts do. -/
@[simp] theorem outcome_bind_eq_ok_iff {first : Noted ν α} {rest : α → Noted ν β} {b : β} :
    (first >>= rest).outcome = .ok b ↔
      ∃ a, first.outcome = .ok a ∧ (rest a).outcome = .ok b := by
  change (first.next rest).outcome = .ok b ↔ _
  unfold next
  cases first.outcome with
  | error fault => simp
  | ok a => simp

/-- A computation in two steps fails exactly if the first step does or, where that makes a
difference, the second. -/
theorem fault_bind_iff {P : Prop} {first : Noted ν α} {rest : α → Noted ν β}
    (hrest : ∀ a, first.outcome = .ok a → ((∃ fault, (rest a).outcome = .error fault) ↔ P)) :
    (∃ fault, (first >>= rest).outcome = .error fault) ↔
      (∃ fault, first.outcome = .error fault) ∨ P := by
  rw [outcome_bind]
  exact bind_fault_iff hrest

/-- A computation whose second step never fails fails exactly if the first step does. -/
theorem fault_bind_iff_of_ok {first : Noted ν α} {rest : α → Noted ν β} {f : α → β}
    (hrest : ∀ a, (rest a).outcome = .ok (f a)) :
    (∃ fault, (first >>= rest).outcome = .error fault) ↔
      ∃ fault, first.outcome = .error fault := by
  rw [outcome_bind, funext hrest]
  exact bind_ok_fault_iff f

end Noted

end StyleTokens
