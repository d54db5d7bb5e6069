import StyleTokens.Proofs.Cache.Sheets

/-!
# Caches of several projects on one store

A cache asks for nothing but its own keys: those of its stylesheets and that of its source digest.
It therefore leaves a cache of another scope alone, unless its own keys cover some of the other's.
That they do if, and only if, the other scope goes on after the first one with `:css`, as in the
scopes `a` and `a:css:b`.
-/

namespace StyleTokens

/-- A call of a cache. -/
inductive SheetCall where
  /-- To look a stylesheet up. -/
  | get (key : String)
  /-- To put a stylesheet. -/
  | put (key text : String) (ttl : Option Scalar)
  /-- To look a stylesheet up, or else generate it and put it. -/
  | getOrGenerate (key : String) (generate : Unit → Except Fault String) (ttl : Option Scalar)
  /-- To drop all stylesheets. -/
  | clear
  /-- To drop them if the preset source has changed. -/
  | dropIfChanged (digest : String)

namespace SheetCache

variable (cache : SheetCache)

/-- The requests for the keys of a cache. -/
def IsOwn : CacheRequest → Prop
  | .store (.get key) | .store (.set key _ _) | .store (.delete key) =>
    key = cache.digestKey ∨ ∃ sheet, key = cache.entryKey sheet
  | .store (.deletePrefix start) => start = cache.entryStem
  | .clock | .note _ => True

/-- Whether the requests of a cache can reach a key. -/
def Covers (key : String) : Prop := key = cache.digestKey ∨ cache.entryStem.toList <+: key.toList

variable {cache}

/-- The cache's own requests reach no key that it does not cover. -/
theorem not_reaches_of_isOwn {request : CacheRequest} (hown : cache.IsOwn request) {key : String}
    (hkey : ¬cache.Covers key) {call : StoreRequest} (hcall : request = .store call) :
    ¬call.Reaches key := by
  subst hcall
  have hne : ∀ other, (other = cache.digestKey ∨ ∃ sheet, other = cache.entryKey sheet) →
      other ≠ key := by
    rintro other (rfl | ⟨sheet, rfl⟩) rfl
    · exact hkey (.inl rfl)
    · exact hkey (.inr (by simp [entryKey]))
  cases call with
  | get other => exact hne other hown
  | set other text ttl => exact hne other hown
  | delete other => exact hne other hown
  | deletePrefix start =>
    obtain rfl : start = cache.entryStem := hown
    exact fun hstart => hkey (.inr (String.startsWith_string_iff.mp hstart))

section OwnKeys

variable (cache) {α β : Type}

/-- An action asks for nothing but the keys of a cache, whatever it is answered. -/
def KeepsTo (action : CacheAction α) : Prop :=
  action.Upholds cache.IsOwn (fun _ _ => True) fun _ => True

variable {cache}

theorem KeepsTo.bind {first : CacheAction α} {rest : α → CacheAction β} (h : cache.KeepsTo first)
    (hrest : ∀ a, cache.KeepsTo (rest a)) : cache.KeepsTo (first >>= rest) := by
  refine CacheAction.Upholds.bind (CacheAction.Upholds.mono h fun outcome _ => ?_)
  exact ⟨fun a _ => hrest a, fun _ _ => trivial⟩

theorem KeepsTo.orUnavailable {action : CacheAction α} {rescue : Report → CacheAction α}
    (h : cache.KeepsTo action) (hrescue : ∀ report, cache.KeepsTo (rescue report)) :
    cache.KeepsTo (action.orUnavailable rescue) := by
  refine CacheAction.Upholds.orUnavailable (CacheAction.Upholds.mono h fun outcome _ => ?_)
  exact ⟨fun report _ => hrescue report, fun _ => trivial⟩

theorem KeepsTo.pure (a : α) : cache.KeepsTo (Pure.pure a) := trivial

theorem KeepsTo.ofExcept (outcome : Except Fault α) :
    cache.KeepsTo (CacheAction.ofExcept outcome) :=
  trivial

theorem KeepsTo.clock : cache.KeepsTo CacheAction.clock := ⟨trivial, fun _ _ => trivial⟩

theorem KeepsTo.note (level : Log.Level) (message : String) :
    cache.KeepsTo (CacheAction.note level message) := ⟨trivial, fun _ _ => trivial⟩

theorem KeepsTo.call {request : StoreRequest} (h : cache.IsOwn (.store request)) :
    cache.KeepsTo (CacheAction.call request) := ⟨h, fun _ _ => trivial⟩

variable (cache)

theorem keepsTo_textOf (key : String) (envelope : Envelope) :
    cache.KeepsTo (textOf key envelope) := by
  unfold textOf
  cases envelope.value.text? with
  | none => exact .pure none
  | some text =>
    refine .bind (.ofExcept _) fun expiry => ?_
    cases expiry with
    | none => exact .pure (some text)
    | some time =>
      refine .bind .clock fun now => ?_
      split
      · exact .bind (.note _ _) fun _ => .pure none
      · exact .pure (some text)

theorem keepsTo_get (key : String) : cache.KeepsTo (cache.get key) := by
  refine .bind (.call (.inr ⟨key, rfl⟩)) fun found => ?_
  cases found with
  | none => exact .pure none
  | some stored =>
    refine .bind (.ofExcept _) fun envelope? => ?_
    cases envelope? with
    | none => exact .bind (.note _ _) fun _ => .pure none
    | some envelope => exact cache.keepsTo_textOf key envelope

theorem keepsTo_put (key text : String) (ttl : Option Scalar) :
    cache.KeepsTo (cache.put key text ttl) :=
  .bind .clock fun _ => .call (.inr ⟨key, rfl⟩)

theorem keepsTo_getOrGenerate (key : String) (generate : Unit → Except Fault String)
    (ttl : Option Scalar) : cache.KeepsTo (cache.getOrGenerate key generate ttl) := by
  have hlookup : cache.KeepsTo (cache.lookup key) := by
    refine .orUnavailable (.bind (cache.keepsTo_get key) fun found => ?_) fun report =>
      .bind (.note _ _) fun _ => .pure _
    cases found <;> exact .pure _
  refine .bind hlookup fun found => ?_
  cases found with
  | hit text => exact .pure _
  | unavailable => exact .bind (.ofExcept _) fun _ => .pure _
  | miss =>
    refine .bind (.ofExcept _) fun text => .bind ?_ fun _ => .pure _
    exact .orUnavailable (cache.keepsTo_put key text ttl) fun _ => .note _ _

theorem keepsTo_clear : cache.KeepsTo cache.clear := by
  unfold clear
  exact .bind (.call rfl) fun _ => .bind (.note _ _) fun _ => .pure _

theorem keepsTo_dropIfChanged (digest : String) : cache.KeepsTo (cache.dropIfChanged digest) := by
  have hreplace : cache.KeepsTo (cache.replaceDigest digest) := by
    refine .bind (.call (.inl rfl)) fun stored => ?_
    split
    · exact .pure false
    · exact .bind (.call rfl) fun _ => .bind (.call (.inl rfl)) fun _ => .pure true
  refine .bind (.orUnavailable hreplace fun _ => .bind (.note _ _) fun _ => .pure false)
    fun changed => ?_
  cases changed with
  | false => exact .pure false
  | true => exact .bind (.note _ _) fun _ => .pure true

end OwnKeys

variable (cache)

/-- The store after a call, whose requests meet one encounter after the other. -/
def after (call : SheetCall) (encounters : ℕ → Encounter) (store : MemoryStore) : MemoryStore :=
  match call with
  | .get key => ((cache.get key).onMemory encounters store).2
  | .put key text ttl => ((cache.put key text ttl).onMemory encounters store).2
  | .getOrGenerate key generate ttl =>
    ((cache.getOrGenerate key generate ttl).onMemory encounters store).2
  | .clear => (cache.clear.onMemory encounters store).2
  | .dropIfChanged digest => ((cache.dropIfChanged digest).onMemory encounters store).2

/-- The store after some calls, each with what it meets. -/
def afterAll (run : List (SheetCall × (ℕ → Encounter))) (store : MemoryStore) : MemoryStore :=
  run.foldl (fun reached step => cache.after step.1 step.2 reached) store

variable {cache}

/-- An action that keeps to a cache's keys leaves all others as they are. -/
theorem KeepsTo.find?_onMemory {α : Type} {action : CacheAction α} (h : cache.KeepsTo action)
    {key : String} (hkey : ¬cache.Covers key) (encounters : ℕ → Encounter) (store : MemoryStore) :
    (action.onMemory encounters store).2.find? key = store.find? key := by
  let kept : MemoryStore → Prop := fun reached => reached.find? key = store.find? key
  have hreply : ∀ met request reached, cache.IsOwn request → kept reached →
      True ∧ kept (reached.reply met request).2 := by
    intro met request reached hown hkept
    have hsame := MemoryStore.find?_reply_of_not_reaches
      (fun _ hcall => not_reaches_of_isOwn hown hkey hcall) met reached
    exact ⟨trivial, hsame.trans hkept⟩
  have hstore : kept store := rfl
  exact (CacheAction.Upholds.onMemory h hreply hstore encounters).2

/-- A call leaves the keys alone that its cache does not cover. -/
theorem find?_after {key : String} (hkey : ¬cache.Covers key) (call : SheetCall)
    (encounters : ℕ → Encounter) (store : MemoryStore) :
    (cache.after call encounters store).find? key = store.find? key := by
  cases call with
  | get sheet => exact (cache.keepsTo_get sheet).find?_onMemory hkey encounters store
  | put sheet text ttl =>
    exact (cache.keepsTo_put sheet text ttl).find?_onMemory hkey encounters store
  | getOrGenerate sheet generate ttl =>
    exact (cache.keepsTo_getOrGenerate sheet generate ttl).find?_onMemory hkey encounters store
  | clear => exact cache.keepsTo_clear.find?_onMemory hkey encounters store
  | dropIfChanged digest =>
    exact (cache.keepsTo_dropIfChanged digest).find?_onMemory hkey encounters store

/-- So does every run of calls. -/
theorem find?_afterAll {key : String} (hkey : ¬cache.Covers key)
    (run : List (SheetCall × (ℕ → Encounter))) (store : MemoryStore) :
    (cache.afterAll run store).find? key = store.find? key := by
  induction run generalizing store with
  | nil => rfl
  | cons step rest ih => exact (ih _).trans (find?_after hkey step.1 step.2 store)

/-- Two scopes side by side: the first one's stem covers a key of the second one only if it ends
within the second scope and its colon, provided that there is at most one more colon in the key. -/
theorem stem_prefix_iff {scope other rest : List Char} (hne : scope ≠ other)
    (hrest : rest.count ':' ≤ 1) :
    scope ++ ":css:".toList <+: other ++ ':' :: rest ↔
      scope ++ ":css:".toList <+: other ++ [':'] := by
  constructor
  · rintro ⟨more, hmore⟩
    rw [List.append_assoc] at hmore
    obtain ⟨between, rfl, hbetween⟩ | ⟨between, rfl, hbetween⟩ :=
      List.append_eq_append_iff.mp hmore
    · rw [List.append_assoc, List.prefix_append_right_inj]
      have hprefix : ":css:".toList <+: (between ++ [':']) ++ rest :=
        ⟨more, by simpa using hbetween⟩
      refine List.prefix_of_prefix_length_le hprefix (List.prefix_append _ _) ?_
      -- Were it shorter, a letter of the stem would stand where the colon is.
      match between, hbetween, hne with
      | [], _, hne => simp at hne
      | [_], h, _ => simp at h
      | [_, _], h, _ => simp at h
      | [_, _, _], h, _ => simp at h
      | _ :: _ :: _ :: _ :: _, _, _ => simp
    · -- The stem would lie behind the second scope, where there are too few colons.
      cases between with
      | nil => simp at hne
      | cons first letters =>
        simp only [List.cons_append, List.cons.injEq] at hbetween
        obtain ⟨rfl, rfl⟩ := hbetween
        simp [List.count_append] at hrest
        omega
  · rintro ⟨more, hmore⟩
    exact ⟨more ++ rest, by rw [← List.append_assoc, hmore]; simp⟩

section Covers

variable {other : SheetCache}

/-- The stem of a cache covers the keys of another scope only if that goes on after its own. -/
theorem stem_prefix_key_iff (hscope : cache.scope ≠ other.scope) {rest : String}
    (hrest : rest.toList.count ':' ≤ 1) :
    cache.entryStem.toList <+: (other.scope ++ ":" ++ rest).toList ↔
      cache.entryStem.toList <+: (other.scope ++ ":").toList := by
  have hne : cache.scope.toList ≠ other.scope.toList := fun h => hscope (String.toList_injective h)
  have hiff := stem_prefix_iff hne hrest
  simpa [entryStem] using hiff

theorem covers_entryKey_iff (hscope : cache.scope ≠ other.scope) {key : String}
    (hkey : ':' ∉ key.toList) :
    cache.Covers (other.entryKey key) ↔ cache.entryStem.toList <+: (other.scope ++ ":").toList := by
  have hcount : ("css:" ++ key).toList.count ':' ≤ 1 := by
    simp [List.count_eq_zero.mpr hkey]
  have hentry : other.entryKey key = other.scope ++ ":" ++ ("css:" ++ key) := by
    simp [entryKey, entryStem, ← String.toList_inj]
  rw [← stem_prefix_key_iff hscope hcount, ← hentry]
  exact or_iff_right (Ne.symm (digestKey_ne_entryKey cache other hkey))

theorem covers_digestKey_iff (hscope : cache.scope ≠ other.scope) :
    cache.Covers other.digestKey ↔ cache.entryStem.toList <+: (other.scope ++ ":").toList := by
  have hdigest : other.digestKey = other.scope ++ ":" ++ "meta:source_hash" := by
    simp [digestKey, ← String.toList_inj]
  have hne : other.digestKey ≠ cache.digestKey := by
    intro h
    refine hscope (String.toList_injective ?_)
    simpa [digestKey, ← String.toList_inj] using h.symm
  rw [← stem_prefix_key_iff hscope (show ("meta:source_hash").toList.count ':' ≤ 1 by decide),
    ← hdigest]
  exact or_iff_right hne

end Covers

/-- What a cache finds in a store depends on nothing but what stands under its key. -/
theorem get_onMemoryAt_congr {key : String} {store store' : MemoryStore}
    (h : store'.find? (cache.entryKey key) = store.find? (cache.entryKey key)) (now : Binary64) :
    ((cache.get key).onMemoryAt now store').1 = ((cache.get key).onMemoryAt now store).1 := by
  rw [get_onMemoryAt, get_onMemoryAt, MemoryStore.get_fst, MemoryStore.get_fst, h]

theorem storedDigest_onMemoryAt_congr {store store' : MemoryStore}
    (h : store'.find? cache.digestKey = store.find? cache.digestKey) (now : Binary64) :
    (cache.storedDigest.onMemoryAt now store').1 = (cache.storedDigest.onMemoryAt now store).1 := by
  rw [storedDigest_onMemoryAt, storedDigest_onMemoryAt, MemoryStore.get_fst, MemoryStore.get_fst, h]

/-- Whatever calls of a cache were made, and whatever they met, another cache finds what it would have
found without them: under every key that holds no colon, as digests do, and as its source digest. -/
def LeavesAlone (cache other : SheetCache) : Prop :=
  ∀ (run : List (SheetCall × (ℕ → Encounter))) (store : MemoryStore) (now : Binary64),
    (∀ key, ':' ∉ key.toList →
      ((other.get key).onMemoryAt now (cache.afterAll run store)).1 =
        ((other.get key).onMemoryAt now store).1) ∧
    (other.storedDigest.onMemoryAt now (cache.afterAll run store)).1 =
      (other.storedDigest.onMemoryAt now store).1

/-- A cache whose stem covers the keys of another takes its source digest away, with all stylesheets
of its own. -/
theorem not_leavesAlone_of_prefix {cache other : SheetCache}
    (h : cache.entryStem.toList <+: (other.scope ++ ":").toList) : ¬cache.LeavesAlone other := by
  intro halone
  have hcovered : other.digestKey.startsWith cache.entryStem = true := by
    rw [String.startsWith_string_iff]
    refine h.trans ⟨"meta:source_hash".toList, ?_⟩
    simp [digestKey]
  let store : MemoryStore := ⟨[(other.digestKey, ⟨"digest", none⟩)]⟩
  let run : List (SheetCall × (ℕ → Encounter)) := [(.clear, fun _ => .inReach .zero)]
  have hbefore : (other.storedDigest.onMemoryAt .zero store).1 = .ok (some "digest") := by
    rw [storedDigest_onMemoryAt, MemoryStore.get_fst]
    simp [store, MemoryStore.find?, Keyed.find?_cons, MemoryEntry.isExpired, Option.filter]
  have hafter : (other.storedDigest.onMemoryAt .zero (cache.afterAll run store)).1 = .ok none := by
    have hclear : cache.afterAll run store = store.erasePrefix cache.entryStem := rfl
    rw [storedDigest_onMemoryAt, MemoryStore.get_fst, hclear, MemoryStore.find?_erasePrefix,
      if_pos hcovered]
    rfl
  have hsame := (halone run store .zero).2
  rw [hbefore, hafter] at hsame
  cases hsame

/-- A cache leaves one of another scope alone if, and only if, that scope does not go on after its
own with `:css`, at its end or before a colon. -/
theorem leavesAlone_iff {cache other : SheetCache} (hscope : cache.scope ≠ other.scope) :
    cache.LeavesAlone other ↔ ¬(cache.scope ++ ":css:").toList <+: (other.scope ++ ":").toList := by
  constructor
  · exact fun halone hprefix => not_leavesAlone_of_prefix hprefix halone
  · intro hprefix run store now
    have hkeep : ∀ key, ¬cache.Covers key →
        (cache.afterAll run store).find? key = store.find? key :=
      fun key hkey => find?_afterAll hkey run store
    refine ⟨fun key hkey => ?_, ?_⟩
    · exact get_onMemoryAt_congr
        (hkeep _ fun hcovers => hprefix ((covers_entryKey_iff hscope hkey).mp hcovers)) now
    · exact storedDigest_onMemoryAt_congr
        (hkeep _ fun hcovers => hprefix ((covers_digestKey_iff hscope).mp hcovers)) now

/-- A scope that goes on after another with a colon and other letters is left alone. -/
theorem leavesAlone_sibling :
    LeavesAlone ⟨"site", .num (.int 60)⟩ ⟨"site:css2", .num (.int 60)⟩ :=
  (leavesAlone_iff (by decide)).mpr (by decide)

/-- The scope `a:css:b` is not left alone by the scope `a`. -/
theorem not_leavesAlone_nested :
    ¬LeavesAlone ⟨"a", .num (.int 60)⟩ ⟨"a:css:b", .num (.int 60)⟩ :=
  not_leavesAlone_of_prefix ⟨"b:".toList, by decide⟩

end SheetCache

end StyleTokens
