import StyleTokens.Dialogue

/-!
# What a dialogue does, whoever answers it

A dialogue is judged by its requests and its result when nothing is known of what answers it but
which answers are possible. One that is served by another may be taken apart where it goes on.
-/

namespace StyleTokens.Dialogue

variable {Request Request' : Type} {Answer : Request → Type} {Answer' : Request' → Type}
variable {α β γ σ : Type}

/-- A dialogue makes none but allowed requests, and its result is right, as long as every answer is
possible. -/
def Upholds (allowed : Request → Prop) (possible : (r : Request) → Answer r → Prop)
    (right : α → Prop) : Dialogue Request Answer α → Prop
  | .done result => right result
  | .ask r next =>
    allowed r ∧ ∀ reply, possible r reply → (next reply).Upholds allowed possible right

variable {allowed : Request → Prop} {possible : (r : Request) → Answer r → Prop}

/-- What is right for less is right for more. -/
theorem Upholds.mono {right right' : α → Prop} {dialogue : Dialogue Request Answer α}
    (h : dialogue.Upholds allowed possible right)
    (hright : ∀ result, right result → right' result) :
    dialogue.Upholds allowed possible right' := by
  induction dialogue with
  | done result => exact hright result h
  | ask r next ih => exact ⟨h.1, fun reply hreply => ih reply (h.2 reply hreply)⟩

/-- A dialogue that goes on is right if what it goes on with is right for every result. -/
theorem Upholds.bind {right : β → Prop} {dialogue : Dialogue Request Answer α}
    {rest : α → Dialogue Request Answer β}
    (h : dialogue.Upholds allowed possible fun result =>
      (rest result).Upholds allowed possible right) :
    (dialogue.bind rest).Upholds allowed possible right := by
  induction dialogue with
  | done result => exact h
  | ask r next ih => exact ⟨h.1, fun reply hreply => ih reply (h.2 reply hreply)⟩

/-- A dialogue whose requests are answered from a state comes to a right result, and keeps whatever
every allowed request keeps. -/
theorem Upholds.run {answer : (r : Request) → σ → Answer r × σ} (inv : σ → Prop)
    {right : α → Prop} {dialogue : Dialogue Request Answer α}
    (h : dialogue.Upholds allowed possible right)
    (hanswer : ∀ r state, allowed r → inv state →
      possible r (answer r state).1 ∧ inv (answer r state).2) {state : σ} (hstate : inv state) :
    right (dialogue.run answer state).1 ∧ inv (dialogue.run answer state).2 := by
  induction dialogue generalizing state with
  | done result => exact ⟨h, hstate⟩
  | ask r next ih =>
    obtain ⟨hpossible, hafter⟩ := hanswer r state h.1 hstate
    exact ih _ (h.2 _ hpossible) hafter

/-- A dialogue that goes on is run part by part. -/
theorem run_bind (answer : (r : Request) → σ → Answer r × σ) (dialogue : Dialogue Request Answer α)
    (rest : α → Dialogue Request Answer β) (state : σ) :
    (dialogue.bind rest).run answer state =
      (rest (dialogue.run answer state).1).run answer (dialogue.run answer state).2 := by
  induction dialogue generalizing state with
  | done result => rfl
  | ask r next ih => exact ih _ _

/-- A dialogue comes to a result in a state, if every request may be met as it is: a request may be
met in more than one way. -/
inductive Reaches (meets : (r : Request) → σ → Answer r → σ → Prop) :
    Dialogue Request Answer α → σ → α → σ → Prop where
  /-- The dialogue is over. -/
  | done (result : α) (state : σ) : Reaches meets (.done result) state result state
  /-- The next request is met, and the dialogue goes on. -/
  | ask {r : Request} {next : Answer r → Dialogue Request Answer α} {state between last : σ}
    {reply : Answer r} {result : α} (hmeets : meets r state reply between)
    (hnext : Reaches meets (next reply) between result last) :
    Reaches meets (.ask r next) state result last

section Reaches

variable {meets : (r : Request) → σ → Answer r → σ → Prop} {state last : σ}

theorem reaches_done_iff {a result : α} :
    Reaches meets (.done a : Dialogue Request Answer α) state result last ↔
      result = a ∧ last = state := by
  constructor
  · rintro ⟨⟩
    exact ⟨rfl, rfl⟩
  · rintro ⟨rfl, rfl⟩
    exact .done _ _

theorem reaches_ask_iff {r : Request} {next : Answer r → Dialogue Request Answer α} {result : α} :
    Reaches meets (.ask r next) state result last ↔
      ∃ reply between, meets r state reply between ∧
        Reaches meets (next reply) between result last := by
  constructor
  · rintro (_ | ⟨hmeets, hnext⟩)
    exact ⟨_, _, hmeets, hnext⟩
  · rintro ⟨reply, between, hmeets, hnext⟩
    exact .ask hmeets hnext

/-- A dialogue that goes on comes to its result by way of another. -/
theorem reaches_bind_iff {dialogue : Dialogue Request Answer α}
    {rest : α → Dialogue Request Answer β} {result : β} :
    Reaches meets (dialogue.bind rest) state result last ↔
      ∃ a between, Reaches meets dialogue state a between ∧
        Reaches meets (rest a) between result last := by
  induction dialogue generalizing state with
  | done a =>
    simp only [bind, reaches_done_iff]
    constructor
    · exact fun h => ⟨a, state, ⟨rfl, rfl⟩, h⟩
    · rintro ⟨_, _, ⟨rfl, rfl⟩, h⟩
      exact h
  | ask r next ih =>
    simp only [bind, reaches_ask_iff, ih]
    constructor
    · rintro ⟨reply, between, hmeets, a, later, hnext, hrest⟩
      exact ⟨a, later, ⟨reply, between, hmeets, hnext⟩, hrest⟩
    · rintro ⟨a, later, ⟨reply, between, hmeets, hnext⟩, hrest⟩
      exact ⟨reply, between, hmeets, a, later, hnext, hrest⟩

/-- A dialogue that is relayed comes to its result by way of what it is relayed to. -/
theorem reaches_relay_iff {server : (r : Request') → Dialogue Request Answer (Answer' r)}
    {dialogue : Dialogue Request' Answer' α} {result : α} :
    Reaches meets (dialogue.relay server) state result last ↔
      Reaches (fun r => Reaches meets (server r)) dialogue state result last := by
  induction dialogue generalizing state with
  | done a => simp only [relay, reaches_done_iff]
  | ask r next ih => simp only [relay, reaches_bind_iff, reaches_ask_iff, ih]

/-- A dialogue that is served from a state that stays comes to its result by way of what its
requests are served with. -/
theorem reaches_of_serve {τ : Type} {store left : τ}
    {server : (r : Request') → τ → Dialogue Request Answer (Answer' r × τ)}
    {served : (r : Request') → σ → Answer' r → σ → Prop}
    (hserver : ∀ r state reply after next,
      Reaches meets (server r store) state (reply, next) after →
        served r state reply after ∧ next = store)
    {dialogue : Dialogue Request' Answer' α} {result : α}
    (h : Reaches meets (dialogue.serve server store) state (result, left) last) :
    Reaches served dialogue state result last := by
  induction dialogue generalizing state with
  | done a =>
    obtain ⟨hpair, rfl⟩ := reaches_done_iff.mp h
    cases hpair
    exact .done _ _
  | ask r next ih =>
    obtain ⟨⟨reply, after⟩, between, hrequest, hrest⟩ := reaches_bind_iff.mp h
    obtain ⟨hserved, rfl⟩ := hserver r state reply between after hrequest
    exact .ask hserved (ih reply hrest)

/-- A dialogue comes to what it is run to. -/
theorem reaches_run {answer : (r : Request) → σ → Answer r × σ}
    (h : ∀ r state, meets r state (answer r state).1 (answer r state).2)
    (dialogue : Dialogue Request Answer α) (state : σ) :
    Reaches meets dialogue state (dialogue.run answer state).1 (dialogue.run answer state).2 := by
  induction dialogue generalizing state with
  | done a => exact .done a state
  | ask r next ih => exact .ask (h r state) (ih _ _)

/-- What every step keeps is kept to the end. -/
theorem Reaches.keeps {dialogue : Dialogue Request Answer α} {result : α} (inv : σ → Prop)
    (h : Reaches meets dialogue state result last)
    (hstep : ∀ r state reply after, meets r state reply after → inv state → inv after)
    (hstate : inv state) : inv last := by
  induction h with
  | done => exact hstate
  | ask hmeets _ ih => exact ih (hstep _ _ _ _ hmeets hstate)

/-- An action that goes on comes to a good end by way of another's. -/
theorem reaches_andThen_iff {ε : Type} {action : ExceptT ε (Dialogue Request Answer) α}
    {rest : α → ExceptT ε (Dialogue Request Answer) β} {b : β} :
    Reaches meets (action >>= rest : ExceptT ε (Dialogue Request Answer) β) state (.ok b) last ↔
      ∃ a between, Reaches meets (action : Dialogue Request Answer (Except ε α)) state (.ok a)
          between ∧
        Reaches meets (rest a : Dialogue Request Answer (Except ε β)) between (.ok b) last := by
  refine reaches_bind_iff.trans ⟨?_, ?_⟩
  · rintro ⟨outcome, between, haction, hrest⟩
    cases outcome with
    | ok a => exact ⟨a, between, haction, hrest⟩
    | error e => cases (reaches_done_iff.mp hrest).1
  · rintro ⟨a, between, haction, hrest⟩
    exact ⟨.ok a, between, haction, hrest⟩

end Reaches

/-- Going on twice is going on with what goes on. -/
theorem bind_assoc (dialogue : Dialogue Request Answer α) (rest : α → Dialogue Request Answer β)
    (last : β → Dialogue Request Answer γ) :
    (dialogue.bind rest).bind last = dialogue.bind fun result => (rest result).bind last := by
  induction dialogue with
  | done result => rfl
  | ask r next ih => exact congrArg (Dialogue.ask r) (funext ih)

/-- A dialogue that goes on is served part by part. -/
theorem serve_bind (server : (r : Request) → σ → Dialogue Request' Answer' (Answer r × σ))
    (dialogue : Dialogue Request Answer α) (rest : α → Dialogue Request Answer β) (state : σ) :
    (dialogue.bind rest).serve server state =
      (dialogue.serve server state).bind fun (result, after) =>
        (rest result).serve server after := by
  induction dialogue generalizing state with
  | done result => rfl
  | ask r next ih =>
    simp only [bind, serve, bind_assoc, ih]

end StyleTokens.Dialogue
