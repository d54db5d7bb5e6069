import Mathlib.Tactic.ByContra
import StyleTokens.Cache.Basic
import StyleTokens.Proofs.Dialogue
import StyleTokens.Proofs.Digest.Sha256

/-!
# Actions of a cache, whoever answers them

An action is judged like a dialogue: by its requests, and by its outcome for all possible answers.
The keys that it uses are told apart: a key of a stylesheet ends with its digest, and no key of a
source digest is one.
-/

namespace StyleTokens

namespace CacheAction

variable {allowed : CacheRequest → Prop} {possible : (r : CacheRequest) → r.Answer → Prop}
variable {α β : Type}

/-- An action makes none but allowed requests, and its outcome is right, as long as every answer is
possible. -/
def Upholds (allowed : CacheRequest → Prop) (possible : (r : CacheRequest) → r.Answer → Prop)
    (right : Except Fault α → Prop) (action : CacheAction α) : Prop :=
  Dialogue.Upholds allowed possible right (action : CacheDialogue (Except Fault α))

namespace Upholds

theorem mono {right right' : Except Fault α → Prop} {action : CacheAction α}
    (h : action.Upholds allowed possible right)
    (hright : ∀ outcome, right outcome → right' outcome) :
    action.Upholds allowed possible right' :=
  Dialogue.Upholds.mono h hright

/-- An action that goes on is right if what it goes on with is, and if its faults are. -/
theorem bind {right : Except Fault β → Prop} {first : CacheAction α} {rest : α → CacheAction β}
    (h : first.Upholds allowed possible fun outcome =>
      (∀ a, outcome = .ok a → (rest a).Upholds allowed possible right) ∧
        ∀ fault, outcome = .error fault → right (.error fault)) :
    (first >>= rest).Upholds allowed possible right := by
  refine Dialogue.Upholds.bind (Dialogue.Upholds.mono h fun outcome houtcome => ?_)
  cases outcome with
  | ok a => exact houtcome.1 a rfl
  | error fault => exact houtcome.2 fault rfl

theorem pure {right : Except Fault α → Prop} {a : α} (h : right (.ok a)) :
    (Pure.pure a : CacheAction α).Upholds allowed possible right := h

theorem ofExcept {right : Except Fault α → Prop} {outcome : Except Fault α} (h : right outcome) :
    (CacheAction.ofExcept outcome).Upholds allowed possible right := h

theorem call {request : StoreRequest} {right : Except Fault request.Result → Prop}
    (hallowed : allowed (.store request))
    (h : ∀ answer, possible (.store request) answer → right answer) :
    (CacheAction.call request).Upholds allowed possible right :=
  ⟨hallowed, h⟩

section Steps

variable {right : Except Fault β → Prop}

theorem ok_bind {a : α} {rest : α → CacheAction β}
    (h : (rest a).Upholds allowed possible right) :
    (CacheAction.ofExcept (.ok a) >>= rest).Upholds allowed possible right := h

theorem clock_bind {rest : Binary64 → CacheAction β} (hallowed : allowed .clock)
    (h : ∀ time, (rest time).Upholds allowed possible right) :
    (CacheAction.clock >>= rest).Upholds allowed possible right :=
  ⟨hallowed, fun time _ => h time⟩

theorem note_bind {level : Log.Level} {message : String} {rest : Unit → CacheAction β}
    (hallowed : ∀ line, allowed (.note line)) (h : (rest ()).Upholds allowed possible right) :
    (CacheAction.note level message >>= rest).Upholds allowed possible right :=
  ⟨hallowed _, fun _ _ => h⟩

end Steps

theorem note {level : Log.Level} {message : String} {right : Except Fault Unit → Prop}
    (hallowed : ∀ line, allowed (.note line)) (h : right (.ok ())) :
    (CacheAction.note level message).Upholds allowed possible right :=
  ⟨hallowed _, fun _ _ => h⟩

/-- A failure of the backend is right if what is done instead is; other faults stay. -/
theorem orUnavailable {right : Except Fault α → Prop} {action : CacheAction α}
    {rescue : Report → CacheAction α}
    (h : action.Upholds allowed possible fun outcome =>
      (∀ report, outcome = .error (.cacheUnavailable report) →
        (rescue report).Upholds allowed possible right) ∧
        ((∀ report, outcome ≠ .error (.cacheUnavailable report)) → right outcome)) :
    (action.orUnavailable rescue).Upholds allowed possible right := by
  refine Dialogue.Upholds.bind (Dialogue.Upholds.mono h fun outcome houtcome => ?_)
  cases outcome with
  | ok a => exact houtcome.2 (by simp)
  | error fault =>
    by_cases hreport : ∃ report, fault = .cacheUnavailable report
    · obtain ⟨report, rfl⟩ := hreport
      exact houtcome.1 report rfl
    · have hright := houtcome.2 fun report heq => hreport ⟨report, Except.error.inj heq⟩
      dsimp only
      split
      · exact absurd ⟨_, rfl⟩ hreport
      · exact hright

end Upholds

end CacheAction

namespace SheetCache

theorem entryKey_eq (cache : SheetCache) (key : String) :
    (cache.entryKey key).toList = cache.scope.toList ++ (":css:".toList ++ key.toList) := by
  simp [entryKey, entryStem]

/-- The store's keys of different stylesheets of a cache are different. -/
theorem entryKey_inj {cache : SheetCache} {key other : String} :
    cache.entryKey key = cache.entryKey other ↔ key = other := by
  rw [← String.toList_inj, entryKey_eq, entryKey_eq]
  simp [String.toList_inj]

theorem startsWith_entryStem (cache : SheetCache) (key : String) :
    (cache.entryKey key).startsWith cache.entryStem = true := by
  rw [String.startsWith_string_iff, entryKey, String.toList_append]
  exact List.prefix_append _ _

/-- Nor is one of them the key of the cache's own source digest. -/
theorem digestKey_ne_own_entryKey (cache : SheetCache) (key : String) :
    cache.digestKey ≠ cache.entryKey key := by
  rw [ne_eq, ← String.toList_inj, entryKey_eq, digestKey]
  simp

/-- The store's key of a stylesheet tells the digest that it ends with. -/
theorem ofText_eq_of_entryKey_eq {cache other : SheetCache} {text text' : String}
    (h : cache.entryKey (Sha256.ofText text) = other.entryKey (Sha256.ofText text')) :
    Sha256.ofText text = Sha256.ofText text' := by
  have hlists := congrArg String.toList h
  rw [entryKey_eq, entryKey_eq, ← List.append_assoc, ← List.append_assoc] at hlists
  have hlength : (Sha256.ofText text).toList.length = (Sha256.ofText text').toList.length := by
    rw [Sha256.length_toList_ofText, Sha256.length_toList_ofText]
  exact String.toList_injective (List.append_inj' hlists hlength).2

/-- No key of a source digest is one of a stylesheet, which ends without a colon. -/
theorem digestKey_ne_entryKey (cache other : SheetCache) {key : String} (hkey : ':' ∉ key.toList) :
    cache.digestKey ≠ other.entryKey key := by
  intro h
  have hlists := congrArg String.toList h
  rw [entryKey_eq, digestKey, String.toList_append] at hlists
  have hcount : key.toList.count ':' = 0 := List.count_eq_zero.mpr hkey
  have hsuffix : ":meta:source_hash".toList <:+
      other.scope.toList ++ (":css:".toList ++ key.toList) := ⟨_, hlists⟩
  obtain ⟨more, hmore⟩ | ⟨more, hmore⟩ :=
    List.suffix_or_suffix_of_suffix hsuffix (List.suffix_append _ _)
  · -- There are as many colons at the end of the stem and in the key as in the other key's end.
    cases more with
    | nil => simp at hmore
    | cons first letters =>
      have hfirst : first = ':' := by
        simp only [String.reduceToList, List.cons_append, List.cons.injEq] at hmore
        exact hmore.1
      have hcolons := congrArg (List.count ':') hmore
      simp [List.count_append, hcount, hfirst] at hcolons
  · have hinfix : ":css:".toList <:+: ":meta:source_hash".toList :=
      ⟨more, key.toList, by rw [List.append_assoc, hmore]⟩
    exact absurd hinfix (by decide +kernel)

end SheetCache

end StyleTokens
