import StyleTokens.Proofs.Cache.Opening

/-!
# Generating behind a cache

A cache that misses generates, and so does one whose store is out of reach. Its outcome is therefore
a text: the one that was put, as long as its envelope is not stale, or the generated one. This takes
a stored text that does not break, and a lifetime that can be added to the time; the outcome is a
fault exactly if one of the two is missing where it is needed.
-/

namespace StyleTokens

namespace SheetCache

/-- What looking a stylesheet up comes to if this was found. -/
def Lookup.ofFound : Option String → Lookup
  | some css => .hit css
  | none => .miss

variable (cache : SheetCache) (key : String) {encounters : ℕ → Encounter} (store : MemoryStore)

/-- The text that the store finds under the key of a stylesheet. -/
def found (met : Encounter) : Option String := (store.get met.now (cache.entryKey key)).1

theorem textOf_onMemory (envelope : Envelope) :
    ((textOf key envelope).onMemory encounters store).1 = envelope.textAt (encounters 0).now := by
  unfold textOf Envelope.textAt
  cases envelope.value.text? with
  | none => rfl
  | some text =>
    cases envelope.expiry with
    | error fault => rfl
    | ok time? =>
      cases time? with
      | none => rfl
      | some time =>
        have hclock : ∀ rest : Binary64 → CacheAction (Option String),
            (CacheAction.clock >>= rest).onMemory encounters store =
              (rest (encounters 0).now).onMemory (fun count => encounters (count + 1)) store :=
          fun _ => rfl
        change ((CacheAction.clock >>= _).onMemory encounters store).1 = _
        rw [hclock]
        simp only [Except.map]
        split_ifs <;> rfl

/-- A stylesheet is looked up by its key, and what is found is opened a moment later. -/
theorem get_onMemory (h : (encounters 0).report = none) :
    ((cache.get key).onMemory encounters store).1 =
      Envelope.openedIfAny (encounters 1).now (cache.found key store (encounters 0)) := by
  have hcall : (CacheAction.call (.get (cache.entryKey key))).onMemory encounters store =
      (.ok (cache.found key store (encounters 0)),
        (store.get (encounters 0).now (cache.entryKey key)).2) := by
    unfold CacheAction.onMemory CacheAction.call Dialogue.run CacheAction.meet
    simp only [MemoryStore.reply, h]
    rfl
  have hnext : (CacheAction.call (.get (cache.entryKey key))).remaining encounters store =
      fun count => encounters (count + 1) := rfl
  unfold get
  rw [CacheAction.onMemory_bind, hcall, hnext]
  dsimp only
  cases cache.found key store (encounters 0) with
  | none => rfl
  | some stored =>
    simp only [Envelope.openedIfAny, Envelope.opened]
    cases Envelope.read stored with
    | error fault => rfl
    | ok envelope? =>
      cases envelope? with
      | none => rfl
      | some envelope => exact textOf_onMemory key _ envelope

/-- Nothing is got from a store that is out of reach. -/
theorem get_onMemory_of_report {report : Report} (h : (encounters 0).report = some report) :
    ((cache.get key).onMemory encounters store).1 = .error (.cacheUnavailable report) := by
  have hcall : ((CacheAction.call (.get (cache.entryKey key))).onMemory encounters store).1 =
      .error (.cacheUnavailable report) := by
    unfold CacheAction.onMemory CacheAction.call Dialogue.run CacheAction.meet
    simp only [MemoryStore.reply, h]
    rfl
  unfold get
  rw [CacheAction.onMemory_bind]
  revert hcall
  generalize (CacheAction.call (.get (cache.entryKey key))).onMemory encounters store = called
  obtain ⟨outcome, after⟩ := called
  rintro rfl
  rfl

/-- A stylesheet that is looked up is there, or not there, or the store is out of reach. -/
theorem lookup_onMemory :
    ((cache.lookup key).onMemory encounters store).1 =
      match (encounters 0).report with
      | some _ => .ok .unavailable
      | none => (Envelope.openedIfAny (encounters 1).now (cache.found key store (encounters 0))).map
          .ofFound := by
  unfold lookup
  rw [CacheAction.onMemory_orUnavailable, CacheAction.onMemory_bind]
  cases hreport : (encounters 0).report with
  | some report =>
    have hget := get_onMemory_of_report cache key store hreport
    revert hget
    generalize (cache.get key).onMemory encounters store = reached
    obtain ⟨outcome, after⟩ := reached
    rintro rfl
    rfl
  | none =>
    have hget := get_onMemory cache key store hreport
    have hreached := Envelope.isReached_openedIfAny (encounters 1).now
      (cache.found key store (encounters 0))
    revert hget hreached
    generalize (cache.get key).onMemory encounters store = reached
    generalize Envelope.openedIfAny (encounters 1).now (cache.found key store (encounters 0)) =
      opened
    obtain ⟨outcome, after⟩ := reached
    rintro rfl hreached
    cases outcome with
    | ok found => cases found <;> rfl
    | error fault =>
      cases fault with
      | cacheUnavailable report => exact absurd rfl (hreached report)
      | _ => rfl

section Lifetime

variable {cache} {ttl : Option Scalar} {n : Int} (hseconds : cache.seconds ttl = .num (.int n))

include hseconds

/-- Putting a stylesheet is tried in vain if the store is out of reach, and fails if it is in reach
and the lifetime is past every double. -/
theorem tryPut_onMemory (text : String) (encounters : ℕ → Encounter) :
    ((cache.tryPut key text ttl).onMemory encounters store).1 =
      if (encounters 1).report = none ∧ ¬InDoubleRange n then .error .integerRange else .ok () := by
  have hlifetime : cache.storeLifetime ttl = lifetimeOf n := by
    unfold storeLifetime
    rw [hseconds, lifetimeOf_eq]
  have hput : ((cache.put key text ttl).onMemory encounters store).1 =
      (encounters 1).report.elim
        ((expiryOf (encounters 1).now (cache.storeLifetime ttl)).map fun _ => ())
        fun report => .error (.cacheUnavailable report) := by
    have hreply : (cache.put key text ttl).onMemory encounters store =
        store.reply (encounters 1) (.store (.set (cache.entryKey key)
          (Envelope.write text (encounters 0).now (cache.seconds ttl))
            (cache.storeLifetime ttl))) := rfl
    rw [hreply, MemoryStore.reply]
    cases (encounters 1).report with
    | none => exact store.answer_set_fst _ _ _ _
    | some report => rfl
  rw [hlifetime, expiryOf_lifetimeOf] at hput
  unfold tryPut
  rw [CacheAction.onMemory_orUnavailable]
  revert hput
  generalize (cache.put key text ttl).onMemory encounters store = reached
  obtain ⟨outcome, after⟩ := reached
  rintro rfl
  cases (encounters 1).report with
  | some report => rfl
  | none =>
    by_cases hrange : InDoubleRange n
    · rw [if_pos hrange, if_neg (by simp [hrange])]
      rfl
    · rw [if_neg hrange, if_pos ⟨rfl, hrange⟩]
      rfl

/-- A cache that has a stylesheet does not generate it. One that has it not does, and puts it; one
whose store is out of reach does, too. -/
theorem getOrGenerate_onMemory {generate : Unit → Except Fault String} {text : String}
    (hgenerate : generate () = .ok text) (encounters : ℕ → Encounter) :
    ∃ stage, ((cache.getOrGenerate key generate ttl).onMemory encounters store).1 =
      match (encounters 0).report,
        Envelope.openedIfAny (encounters 1).now (cache.found key store (encounters 0)) with
      | some _, _ => .ok (text, true)
      | none, .error fault => .error fault
      | none, .ok (some css) => .ok (css, false)
      | none, .ok none =>
        if (encounters stage).report = none ∧ ¬InDoubleRange n then .error .integerRange
        else .ok (text, true) := by
  obtain ⟨used, hused⟩ := CacheAction.exists_remaining (cache.lookup key) encounters store
  refine ⟨1 + used, ?_⟩
  have hlookup : ((cache.lookup key).onMemory encounters store).1 = _ :=
    lookup_onMemory cache key store
  unfold getOrGenerate
  rw [CacheAction.onMemory_bind, hused]
  revert hlookup
  generalize (cache.lookup key).onMemory encounters store = reached
  generalize Envelope.openedIfAny (encounters 1).now (cache.found key store (encounters 0)) = opened
  obtain ⟨outcome, after⟩ := reached
  rintro rfl
  cases (encounters 0).report with
  | some report => simp only [hgenerate]; rfl
  | none =>
    cases opened with
    | error fault => rfl
    | ok found =>
      cases found with
      | some css => rfl
      | none =>
        simp only [hgenerate, Except.map, Lookup.ofFound]
        have htry : ((cache.tryPut key text ttl).onMemory (fun count => encounters (count + used))
            after).1 = if (encounters (1 + used)).report = none ∧ ¬InDoubleRange n
              then .error .integerRange else .ok () :=
          tryPut_onMemory key after hseconds text _
        change ((cache.tryPut key text ttl >>= fun _ => pure (text, true)).onMemory _ after).1 = _
        rw [CacheAction.onMemory_bind]
        revert htry
        generalize (cache.tryPut key text ttl).onMemory _ after = reached
        obtain ⟨outcome, after'⟩ := reached
        rintro rfl
        split_ifs <;> rfl

/-- Whatever the store holds, whatever the clock shows, and whichever calls fail: the outcome is the
text of an envelope that is not stale, or the generated text, unless it is a fault. It is none if
the stored text does not break and the lifetime is not past every double. In a store that is in
reach it is one exactly if the stored text breaks, or if it has no text to offer and the lifetime
is past every double. -/
theorem getOrGenerate_outcome {generate : Unit → Except Fault String} {text : String}
    (hgenerate : generate () = .ok text) (encounters : ℕ → Encounter) :
    (∀ css anew,
      ((cache.getOrGenerate key generate ttl).onMemory encounters store).1 = .ok (css, anew) →
      anew = true ∧ css = text ∨
        anew = false ∧ ∃ stored envelope, cache.found key store (encounters 0) = some stored ∧
          Envelope.read stored = .ok (some envelope) ∧ envelope.value = .str css ∧
            envelope.isStale (encounters 1).now = false) ∧
    ((∀ stored, cache.found key store (encounters 0) = some stored → ¬Envelope.Breaks stored) →
      InDoubleRange n →
        ∃ css anew,
          ((cache.getOrGenerate key generate ttl).onMemory encounters store).1 = .ok (css, anew)) ∧
    ((∀ count, (encounters count).report = none) →
      ((∃ fault,
          ((cache.getOrGenerate key generate ttl).onMemory encounters store).1 = .error fault) ↔
        (∃ stored, cache.found key store (encounters 0) = some stored ∧ Envelope.Breaks stored) ∨
          Envelope.openedIfAny (encounters 1).now (cache.found key store (encounters 0)) =
            .ok none ∧ ¬InDoubleRange n)) := by
  obtain ⟨stage, houtcome⟩ := getOrGenerate_onMemory key store hseconds hgenerate encounters
  rw [houtcome]
  cases hreport : (encounters 0).report with
  | some report =>
    refine ⟨fun css anew h => .inl ?_, fun _ _ => ⟨text, true, rfl⟩, fun hreach => ?_⟩
    · cases h
      exact ⟨rfl, rfl⟩
    · rw [hreach 0] at hreport
      cases hreport
  | none =>
    have hbreaks : (∃ fault, Envelope.openedIfAny (encounters 1).now
        (cache.found key store (encounters 0)) = .error fault) ↔ _ := Envelope.openedIfAny_fault_iff
    cases hopened : Envelope.openedIfAny (encounters 1).now
        (cache.found key store (encounters 0)) with
    | error fault =>
      obtain ⟨stored, hfound, hstored⟩ := hbreaks.mp ⟨fault, hopened⟩
      refine ⟨nofun, fun hsound _ => absurd hstored (hsound stored hfound), fun _ => ?_⟩
      exact ⟨fun _ => .inl ⟨stored, hfound, hstored⟩, fun _ => ⟨fault, rfl⟩⟩
    | ok css? =>
      rw [hopened] at hbreaks
      cases css? with
      | some css =>
        refine ⟨fun css' anew h => .inr ?_, fun _ _ => ⟨css, false, rfl⟩, fun _ => ?_⟩
        · cases h
          obtain ⟨stored, hfound, hstored⟩ := Envelope.exists_of_openedIfAny hopened
          obtain ⟨envelope, henvelope⟩ := Envelope.exists_of_opened hstored
          exact ⟨rfl, stored, envelope, hfound, henvelope⟩
        · simp [← hbreaks]
      | none =>
        refine ⟨fun css anew h => .inl ?_, fun _ hrange => ⟨text, true, if_neg (by simp [hrange])⟩,
          fun hreach => ?_⟩
        · dsimp only at h
          split_ifs at h
          cases h
          exact ⟨rfl, rfl⟩
        · by_cases hrange : InDoubleRange n <;> simp [← hbreaks, hreach, hrange]

end Lifetime

/-- A store that holds a text of another sort is in reach at first and then no longer: the
stylesheet is generated, and cannot be put. -/
theorem getOrGenerate_outcome_corrupt :
    let cache : SheetCache := ⟨"site", .num (.int 60)⟩
    let store : MemoryStore := ⟨[("site:css:k", ⟨"not json", none⟩)]⟩
    let encounters : ℕ → Encounter := fun count =>
      ⟨.ofInt 1000, if count = 0 then none else some ⟨none, "down"⟩, false⟩
    let generate : Unit → Except Fault String := fun _ => .ok "new"
    cache.seconds none = .num (.int 60) ∧ generate () = .ok "new" ∧ InDoubleRange 60 ∧
      ((cache.getOrGenerate "k" generate none).onMemory encounters store).1 =
        .ok ("new", true) := by
  intro cache store encounters generate
  have hrange : InDoubleRange 60 := inDoubleRange_of_lt (by decide)
  have hread : Envelope.read "not json" = .ok none := rfl
  have hfound : cache.found "k" store (encounters 0) = some "not json" := rfl
  have hseconds : cache.seconds none = .num (.int 60) := rfl
  have hgenerate : generate () = .ok "new" := rfl
  obtain ⟨hright, hok, -⟩ := getOrGenerate_outcome "k" store hseconds hgenerate encounters
  refine ⟨hseconds, hgenerate, hrange, ?_⟩
  obtain ⟨css, anew, houtcome⟩ := hok (fun stored hstored hbreaks => by
    obtain rfl := Option.some.inj (hfound.symm.trans hstored)
    have hfault : ∃ fault, Envelope.opened .zero "not json" = .error fault :=
      Envelope.opened_fault_iff.mpr hbreaks
    rw [Envelope.opened, hread] at hfault
    obtain ⟨fault, hfault⟩ := hfault
    cases hfault) hrange
  obtain ⟨rfl, rfl⟩ | ⟨-, stored, envelope, hstored, hopened, -⟩ := hright css anew houtcome
  · exact houtcome
  · obtain rfl := Option.some.inj (hfound.symm.trans hstored)
    rw [hread] at hopened
    cases hopened

/-- An envelope whose lifetime is infinite is no miss: generating behind a cache that finds it
fails. -/
theorem not_getOrGenerate_ok_endless :
    ((SheetCache.getOrGenerate ⟨"tokensmith", .num (.int 86400)⟩ "k" (fun _ => .ok "new")
      none).onMemoryAt (.ofInt 1000) ⟨[("tokensmith:css:k",
        ⟨"\x7b\"value\": \"x\", \"created_at\": 1, \"ttl\": Infinity\x7d", none⟩)]⟩).1.toOption =
      none := by
  decide +kernel

end SheetCache

end StyleTokens
