import StyleTokens.Cache.Store
import StyleTokens.Proofs.Cache.Action
import StyleTokens.Proofs.Cache.MemoryStore
import StyleTokens.World

/-!
# Actions of a cache on a store in memory

An action meets its store request by request. Each time the clock shows what it likes, and the store
may be out of reach, before or after it has done what it was asked for. In a world, where the clock
stands still and the store is always in reach, an action comes to the same as when it runs as part
of a program.
-/

namespace StyleTokens

/-- What a request of a cache meets. -/
structure Encounter where
  /-- The time that the clock shows. -/
  now : Binary64
  /-- What the store reports if it is out of reach. -/
  report : Option Report
  /-- Whether a store that is out of reach has still done what it was asked for. -/
  late : Bool

namespace Encounter

/-- The clock shows a time, and the store is in reach. -/
def inReach (now : Binary64) : Encounter := ⟨now, none, false⟩

end Encounter

namespace MemoryStore

/-- The reply to a request of a cache, and the store afterwards. -/
def reply (met : Encounter) : (request : CacheRequest) → MemoryStore → request.Answer × MemoryStore
  | .store request, store =>
    let (answer, after) := store.answer met.now request
    match met.report with
    | none => (answer, after)
    | some report => (.error (.cacheUnavailable report), if met.late then after else store)
  | .clock, store => (met.now, store)
  | .note _, store => ((), store)

/-- After a request of a cache the store is as it was, or as its answer to a call leaves it. -/
theorem reply_snd (met : Encounter) (request : CacheRequest) (store : MemoryStore) :
    (store.reply met request).2 = store ∨ ∃ call, request = .store call ∧
      (store.reply met request).2 = (store.answer met.now call).2 := by
  cases request with
  | store call =>
    cases hreport : met.report with
    | none => exact .inr ⟨call, rfl, by simp only [reply, hreport]⟩
    | some report =>
      cases hlate : met.late with
      | true => exact .inr ⟨call, rfl, by simp only [reply, hreport, hlate, if_true]⟩
      | false => exact .inl (by simp [reply, hreport, hlate])
  | clock => exact .inl rfl
  | note line => exact .inl rfl

/-- A request that does not reach a key leaves what stands under it alone. -/
theorem find?_reply_of_not_reaches {request : CacheRequest} {key : String}
    (h : ∀ call, request = .store call → ¬call.Reaches key) (met : Encounter)
    (store : MemoryStore) :
    (store.reply met request).2.find? key = store.find? key := by
  obtain hsame | ⟨call, hcall, hafter⟩ := store.reply_snd met request
  · rw [hsame]
  · rw [hafter, find?_answer_of_not_reaches (h call hcall)]

/-- A call is answered by the store, or by a report that it is out of reach. -/
theorem reply_fst (met : Encounter) (call : StoreRequest) (store : MemoryStore) :
    (store.reply met (.store call)).1 = (store.answer met.now call).1 ∨
      ∃ report, (store.reply met (.store call)).1 = .error (.cacheUnavailable report) := by
  cases hreport : met.report with
  | none => exact .inl (by simp only [reply, hreport]; rfl)
  | some report => exact .inr ⟨report, by simp only [reply, hreport]; rfl⟩

end MemoryStore

namespace CacheAction

variable {α β : Type}

/-- The reply to the next request, and the store and what is still to be met afterwards. -/
def meet (request : CacheRequest) (state : MemoryStore × (ℕ → Encounter)) :
    request.Answer × MemoryStore × (ℕ → Encounter) :=
  ((state.1.reply (state.2 0) request).1, (state.1.reply (state.2 0) request).2,
    fun count => state.2 (count + 1))

/-- The outcome of an action on a store in memory, and the store afterwards; the requests meet one
encounter after the other. -/
def onMemory (action : CacheAction α) (encounters : ℕ → Encounter) (store : MemoryStore) :
    Except Fault α × MemoryStore :=
  let (outcome, after, _) :=
    Dialogue.run meet (action : CacheDialogue (Except Fault α)) (store, encounters)
  (outcome, after)

/-- An action on a store in memory that is in reach, while the clock shows one time. -/
def onMemoryAt (action : CacheAction α) (now : Binary64) (store : MemoryStore) :
    Except Fault α × MemoryStore :=
  action.onMemory (fun _ => .inReach now) store

/-- An action that is right whatever is answered is right on a store in memory, and keeps what every
allowed request keeps. -/
theorem Upholds.onMemory {allowed : CacheRequest → Prop}
    {possible : (r : CacheRequest) → r.Answer → Prop} {right : Except Fault α → Prop}
    {inv : MemoryStore → Prop} {action : CacheAction α} (h : action.Upholds allowed possible right)
    (hreply : ∀ met request store, allowed request → inv store →
      possible request (store.reply met request).1 ∧ inv (store.reply met request).2)
    {store : MemoryStore} (hstore : inv store) (encounters : ℕ → Encounter) :
    right (action.onMemory encounters store).1 ∧ inv (action.onMemory encounters store).2 := by
  have hmeet : ∀ (request : CacheRequest) (state : MemoryStore × (ℕ → Encounter)),
      allowed request → inv state.1 →
        possible request (meet request state).1 ∧ inv (meet request state).2.1 :=
    fun request state hallowed hstate => hreply (state.2 0) request state.1 hallowed hstate
  let kept : MemoryStore × (ℕ → Encounter) → Prop := fun state => inv state.1
  have hkept : kept (store, encounters) := hstore
  exact Dialogue.Upholds.run kept h hmeet hkept

section Parts

/-- A dialogue that goes on is run part by part. -/
theorem run_meet_bind {γ δ : Type} (dialogue : CacheDialogue γ) (rest : γ → CacheDialogue δ)
    (state : MemoryStore × (ℕ → Encounter)) :
    (dialogue.bind rest).run meet state =
      (rest (dialogue.run meet state).1).run meet (dialogue.run meet state).2 := by
  induction dialogue generalizing state with
  | done result => rfl
  | ask request next ih => exact ih _ _

/-- What is still to be met after an action. -/
def remaining (action : CacheAction α) (encounters : ℕ → Encounter) (store : MemoryStore) :
    ℕ → Encounter :=
  (Dialogue.run meet (action : CacheDialogue (Except Fault α)) (store, encounters)).2.2

/-- An action meets as many encounters as it makes requests, and leaves the others. -/
theorem exists_remaining (action : CacheAction α) (encounters : ℕ → Encounter)
    (store : MemoryStore) :
    ∃ used, action.remaining encounters store = fun count => encounters (count + used) := by
  unfold remaining
  change CacheDialogue (Except Fault α) at action
  induction action generalizing store encounters with
  | done result => exact ⟨0, rfl⟩
  | ask request next ih =>
    obtain ⟨used, hused⟩ := ih (store.reply (encounters 0) request).1
      (fun count => encounters (count + 1)) (store.reply (encounters 0) request).2
    exact ⟨used + 1, hused⟩

/-- An action goes on from the store that its first part leaves, and meets what that part leaves,
unless it ends in a fault. -/
theorem onMemory_bind (first : CacheAction α) (rest : α → CacheAction β)
    (encounters : ℕ → Encounter) (store : MemoryStore) :
    (first >>= rest).onMemory encounters store =
      match first.onMemory encounters store with
      | (.ok a, after) => (rest a).onMemory (first.remaining encounters store) after
      | (.error fault, after) => (.error fault, after) := by
  unfold onMemory remaining
  rw [show (first >>= rest : CacheAction β) = Dialogue.bind first _ from rfl, run_meet_bind]
  generalize Dialogue.run meet (first : CacheDialogue (Except Fault α)) (store, encounters) =
    reached
  obtain ⟨outcome, after, later⟩ := reached
  cases outcome <;> rfl

/-- A report that the backend is out of reach is answered by the rescue. -/
theorem onMemory_orUnavailable (action : CacheAction α) (rescue : Report → CacheAction α)
    (encounters : ℕ → Encounter) (store : MemoryStore) :
    (action.orUnavailable rescue).onMemory encounters store =
      match action.onMemory encounters store with
      | (.error (.cacheUnavailable report), after) =>
        (rescue report).onMemory (action.remaining encounters store) after
      | reached => reached := by
  unfold onMemory orUnavailable remaining
  rw [show (tryCatch action _ : CacheAction α) = Dialogue.bind action _ from rfl, run_meet_bind]
  generalize Dialogue.run meet (action : CacheDialogue (Except Fault α)) (store, encounters) =
    reached
  obtain ⟨outcome, after, later⟩ := reached
  cases outcome with
  | ok a => rfl
  | error fault => cases fault <;> rfl

end Parts

section InReach

variable (now : Binary64) (store : MemoryStore)

@[simp] theorem onMemoryAt_pure (a : α) :
    (pure a : CacheAction α).onMemoryAt now store = (.ok a, store) := rfl

@[simp] theorem onMemoryAt_ofExcept (outcome : Except Fault α) :
    (ofExcept outcome).onMemoryAt now store = (outcome, store) := rfl

@[simp] theorem onMemoryAt_call (request : StoreRequest) :
    (call request).onMemoryAt now store = store.answer now request := rfl

@[simp] theorem onMemoryAt_clock : clock.onMemoryAt now store = (.ok now, store) := rfl

@[simp] theorem onMemoryAt_note (level : Log.Level) (message : String) :
    (note level message).onMemoryAt now store = (.ok (), store) := rfl

/-- While the clock stands still, nothing changes in what is still to be met. -/
theorem remaining_inReach (action : CacheAction α) :
    action.remaining (fun _ => .inReach now) store = fun _ => .inReach now :=
  (exists_remaining action _ store).choose_spec

/-- An action goes on from the store that its first part leaves, unless that ends in a fault. -/
theorem onMemoryAt_bind (first : CacheAction α) (rest : α → CacheAction β) :
    (first >>= rest).onMemoryAt now store =
      match first.onMemoryAt now store with
      | (.ok a, after) => (rest a).onMemoryAt now after
      | (.error fault, after) => (.error fault, after) := by
  unfold onMemoryAt
  rw [onMemory_bind, remaining_inReach]

theorem onMemoryAt_orUnavailable (action : CacheAction α) (rescue : Report → CacheAction α) :
    (action.orUnavailable rescue).onMemoryAt now store =
      match action.onMemoryAt now store with
      | (.error (.cacheUnavailable report), after) => (rescue report).onMemoryAt now after
      | reached => reached := by
  unfold onMemoryAt
  rw [onMemory_orUnavailable, remaining_inReach]

end InReach

end CacheAction

/-- A program that runs an action on a store in memory comes to what the action comes to at the time
of the world. -/
theorem World.run_perform_memory {α : Type} (world : World) (store : MemoryStore)
    (action : CacheAction α) :
    (world.run ((Store.memory store).perform action)).1 =
      ((action.onMemoryAt world.time store).1, .memory (action.onMemoryAt world.time store).2) := by
  unfold Store.perform CacheAction.onMemoryAt CacheAction.onMemory
  change CacheDialogue (Except Fault α) at action
  induction action generalizing world store with
  | done outcome => rfl
  | ask request next ih =>
    cases request with
    | store call => exact ih _ world _
    | clock => exact ih _ world _
    | note line => exact ih _ { world with notes := world.notes ++ [line] } _

end StyleTokens
