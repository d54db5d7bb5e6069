import Mathlib.Logic.Relation
import StyleTokens.Proofs.Cache.Encounter
import StyleTokens.Proofs.Digest.Sha256
import StyleTokens.Proofs.Render.Client

/-!
# Runs of clients that share a store in memory

Clients take turns in any order, one request at a time, so a job of one may stand still while others
go on. In every state of such a run the store holds genuine texts only, and what is left of every job
is safe and comes to a right result. A job that is done has therefore returned what would have been
generated.
-/

namespace StyleTokens.Client

/-- A job that a client is at. -/
structure Task (ι : Type) where
  /-- The client. -/
  client : ι
  /-- The job. -/
  job : Job
  /-- What is left to do of it; nothing but its outcome if it is done. -/
  rest : CacheDialogue (Except Fault job.Result)

/-- A store in memory, and the jobs that were begun on it. -/
structure Sharing (ι : Type) where
  /-- The store. -/
  store : MemoryStore
  /-- The jobs, those that are done included. -/
  tasks : List (Task ι)

namespace Sharing

variable {ι : Type} {clients : ι → Client}

/-- The store is empty, and no job was begun. -/
def start : Sharing ι := ⟨.empty, []⟩

/-- A client begins a job, or makes the next request of one, which meets whatever it meets. -/
inductive Step (clients : ι → Client) : Sharing ι → Sharing ι → Prop
  | begins (store : MemoryStore) (tasks : List (Task ι)) (i : ι) (job : Job) :
    Step clients ⟨store, tasks⟩ ⟨store, tasks ++ [⟨i, job, (clients i).action job⟩]⟩
  | asks (store : MemoryStore) (before after : List (Task ι)) (i : ι) (job : Job)
    (request : CacheRequest) (next : request.Answer → CacheDialogue (Except Fault job.Result))
    (met : Encounter) :
    Step clients ⟨store, before ++ ⟨i, job, .ask request next⟩ :: after⟩
      ⟨(store.reply met request).2,
        before ++ ⟨i, job, next (store.reply met request).1⟩ :: after⟩

/-- Every text in a store is genuine. -/
def AllGenuine (clients : ι → Client) (store : MemoryStore) : Prop :=
  ∀ key entry, store.find? key = some entry → Genuine clients key entry.text

/-- A store of genuine texts gives clients only answers that they rely on. -/
theorem possible_reply {store : MemoryStore} (h : AllGenuine clients store) (met : Encounter)
    (request : CacheRequest) : Possible clients request (store.reply met request).1 := by
  cases request with
  | clock => trivial
  | note line => trivial
  | store call =>
    obtain hanswer | ⟨report, hreport⟩ := store.reply_fst met call
    · rw [hanswer]
      cases call with
      | get key =>
        refine .inr ⟨(store.get met.now key).1, rfl, fun text htext => ?_⟩
        rw [store.get_fst] at htext
        obtain ⟨entry, hentry, rfl⟩ := Option.map_eq_some_iff.mp htext
        exact h key entry (Option.filter_eq_some_iff.mp hentry).1
      | set key text lifetime =>
        exact .inr ⟨met.now, store.answer_set_fst met.now key text lifetime⟩
      | delete key => exact .inr rfl
      | deletePrefix start => exact .inr ⟨_, rfl⟩
    · rw [hreport]
      cases call <;> exact .inl ⟨report, rfl⟩

/-- An allowed request leaves genuine texts in the store. -/
theorem allGenuine_reply {store : MemoryStore} (h : AllGenuine clients store) (met : Encounter)
    {request : CacheRequest} (hallowed : Allowed clients request) :
    AllGenuine clients (store.reply met request).2 := by
  obtain hsame | ⟨call, rfl, hafter⟩ := store.reply_snd met request
  · rw [hsame]
    exact h
  rw [hafter]
  intro key entry hentry
  obtain hbefore | ⟨lifetime, rfl, hexpires⟩ := MemoryStore.find?_answer hentry
  · exact h key entry hbefore
  -- What was just put has a lifetime that could be added to the time.
  obtain ⟨ttl, rfl, hsheet⟩ := hallowed
  intro i digest hdigest hkey
  obtain ⟨css, created, hgenerate, htext⟩ := hsheet i digest hdigest hkey
  rw [expiryOf_lifetimeOf] at hexpires
  split_ifs at hexpires with hrange
  exact ⟨css, created, ttl, hgenerate, hrange, htext⟩

/-- The store holds genuine texts, and what is left of every job is safe and comes out right. -/
structure Sound (clients : ι → Client) (sharing : Sharing ι) : Prop where
  /-- The texts in the store. -/
  genuine : AllGenuine clients sharing.store
  /-- What is left of the jobs. -/
  tasks : ∀ task ∈ sharing.tasks,
    task.rest.Upholds (Allowed clients) (Possible clients) ((clients task.client).Right task.job)

theorem sound_start : Sound clients (start : Sharing ι) :=
  ⟨fun _ _ h => by simp [start] at h, nofun⟩

/-- Every step of a client keeps the store and the jobs sound. -/
theorem Sound.step (hdocuments : ∀ i, (clients i).HoldsDocuments) (hdigests : DigestsDiffer clients)
    {sharing after : Sharing ι} (h : Sound clients sharing) (hstep : Step clients sharing after) :
    Sound clients after := by
  cases hstep with
  | begins store tasks i job =>
    refine ⟨h.genuine, fun task htask => ?_⟩
    rcases List.mem_append.mp htask with hbefore | hnew
    · exact h.tasks task hbefore
    · obtain rfl := List.mem_singleton.mp hnew
      exact action_upholds hdocuments hdigests i job
  | asks store before rest i job request next met =>
    have hask := h.tasks ⟨i, job, .ask request next⟩ (by simp)
    refine ⟨allGenuine_reply h.genuine met hask.1, fun task htask => ?_⟩
    rcases List.mem_append.mp htask with hbefore | hmem
    · exact h.tasks task (by simp [hbefore])
    rcases List.mem_cons.mp hmem with rfl | hrest
    · exact hask.2 _ (possible_reply h.genuine met request)
    · exact h.tasks task (by simp [hrest])

/-- Every state of a run of clients is sound. -/
theorem sound_of_run (hdocuments : ∀ i, (clients i).HoldsDocuments)
    (hdigests : DigestsDiffer clients) {sharing : Sharing ι}
    (h : Relation.ReflTransGen (Step clients) start sharing) : Sound clients sharing := by
  induction h with
  | refl => exact sound_start
  | tail _ hstep ih => exact ih.step hdocuments hdigests hstep

/-- A job that nothing else interrupts goes on to its end. -/
theorem run_to_end (clients : ι → Client) (before after : List (Task ι)) (i : ι) {job : Job}
    (rest : CacheDialogue (Except Fault job.Result)) (encounters : ℕ → Encounter)
    (store : MemoryStore) :
    Relation.ReflTransGen (Step clients) ⟨store, before ++ ⟨i, job, rest⟩ :: after⟩
      ⟨(CacheAction.onMemory rest encounters store).2,
        before ++ ⟨i, job, .done (CacheAction.onMemory rest encounters store).1⟩ :: after⟩ := by
  induction rest generalizing encounters store with
  | done outcome => exact .refl
  | ask request next ih =>
    exact .head (.asks store before after i job request next (encounters 0))
      (ih _ (fun count => encounters (count + 1)) _)

/-- A job that is begun may be done before anything else happens. -/
theorem run_job (clients : ι → Client) (i : ι) (job : Job) (encounters : ℕ → Encounter)
    (store : MemoryStore) (tasks : List (Task ι)) :
    Relation.ReflTransGen (Step clients) ⟨store, tasks⟩
      ⟨(((clients i).action job).onMemory encounters store).2,
        tasks ++ [⟨i, job, .done (((clients i).action job).onMemory encounters store).1⟩]⟩ :=
  .head (.begins store tasks i job) (run_to_end clients tasks [] i _ encounters store)

/-- A job that is done in a run of clients has returned what would have been generated. -/
theorem right_of_done (hdocuments : ∀ i, (clients i).HoldsDocuments)
    (hdigests : DigestsDiffer clients) {sharing : Sharing ι}
    (hrun : Relation.ReflTransGen (Step clients) start sharing) {i : ι} {job : Job}
    {outcome : Except Fault job.Result} (hdone : ⟨i, job, .done outcome⟩ ∈ sharing.tasks) :
    (clients i).Right job outcome :=
  (sound_of_run hdocuments hdigests hrun).tasks ⟨i, job, .done outcome⟩ hdone

/-- A client with one preset, whose rule has a comment or has none. -/
def cardClient (annotated : Bool) : Client where
  context :=
    { registry :=
        ⟨[("card", ⟨"card", "Card", "", "theme", none, [("color", .str "#123")]⟩)], [], .ok, none, none⟩
      tokens := []
      cache := none
      output := ⟨.str "presets", .bool true, .bool annotated, [], .str "--size"⟩
      breakpoints := []
      spacing := [] }
  scope := "site"
  ttl := 60

/-- What the stylesheet of such a client is made from, in the order of its keys. -/
def cardInputs (annotated : Bool) : Value :=
  .map [(.str "flags", .map [(.str "annotate", .bool annotated), (.str "preset_css", .bool true)]),
    (.str "presets", .list [.list [.str "card",
      .map [(.str "label", .str "Card"), (.str "properties", .list [.list [.str "color", .str "#123"]])]]])]

theorem sorted_cardClient (annotated : Bool) :
    Json.sorted (cardClient annotated).inputs = .ok (cardInputs annotated) := by
  simp [cardClient, cardInputs, inputs, inputsOfPresets, sheetInputs, presetInputs, Value.ofFields,
    OutputSettings.flags, Json.sorted, Json.sortedItems, Json.sortedEntries, Json.sortEntries,
    Json.disorder?, Json.comparable, Json.keyLe, List.mergeSort, List.MergeSort.Internal.splitInTwo,
    Except.map, bind, Except.bind, pure, Except.pure, Value.str]

theorem canonical_cardClient (annotated : Bool) :
    Json.canonical (cardClient annotated).inputs =
      .ok (Json.render .canonical (cardInputs annotated)) := by
  rw [Json.canonical, sorted_cardClient]
  rfl

/-- The two clients have different digests. -/
theorem digest_cardInputs_ne :
    Sha256.ofText (Json.render .canonical (cardInputs true)) ≠
      Sha256.ofText (Json.render .canonical (cardInputs false)) := by
  have hblocks : ∀ annotated, (Sha256.wordsOf (Sha256.padded
      ((Json.valueText .canonical (cardInputs annotated)).flatMap
        String.utf8EncodeChar))).length = 16 * 2 := by
    decide +kernel
  rw [Json.render, Json.render, Sha256.ofText_ofList (hblocks true),
    Sha256.ofText_ofList (hblocks false)]
  refine fun hdigest => absurd (String.ofList_injective hdigest) ?_
  decide +kernel

theorem digestsDiffer_cardClient : DigestsDiffer cardClient := by
  intro i j text text' htext htext' hdigest
  rw [canonical_cardClient] at htext htext'
  rw [← Except.ok.inj htext, ← Except.ok.inj htext'] at hdigest ⊢
  cases i with
  | false =>
    cases j with
    | false => rfl
    | true => exact absurd hdigest.symm digest_cardInputs_ne
  | true =>
    cases j with
    | false => exact absurd hdigest digest_cardInputs_ne
    | true => rfl

theorem holdsDocuments_cardClient (annotated : Bool) : (cardClient annotated).HoldsDocuments := by
  refine ⟨fun entry hentry property hproperty => ?_, trivial, trivial⟩
  obtain rfl := List.mem_singleton.mp hentry
  obtain rfl := List.mem_singleton.mp hproperty
  trivial

/-- Two clients share a store and a scope. One makes its stylesheet while the clock shows 1000
seconds; for the other the store is out of reach at first, then it makes its head twice, the second
time from the cache. -/
theorem right_of_done_cards :
    ∃ sharing outcome, Relation.ReflTransGen (Step cardClient) start sharing ∧
      ⟨true, .head, .done outcome⟩ ∈ sharing.tasks ∧
      outcome.toOption = some ("<style id=\"presets\">\n/* Typography Preset: Card */\n" ++
        ".has-type-preset-card \x7b\n    color: #123;\n\x7d\n</style>\n") := by
  let calm : ℕ → Encounter := fun _ => .inReach (.ofInt 1000)
  let stormy : ℕ → Encounter := fun count =>
    if count = 0 then ⟨.ofInt 1000, some ⟨none, "down"⟩, false⟩ else .inReach (.ofInt 1000)
  have hrun := ((run_job cardClient false .stylesheet calm .empty []).trans
    (run_job cardClient true .head stormy _ _)).trans
      ((run_job cardClient true .head calm _ _).trans (run_job cardClient true .head calm _ _))
  refine ⟨_, _, hrun, List.mem_append_right _ (List.mem_singleton.mpr rfl), ?_⟩
  have hright := right_of_done holdsDocuments_cardClient digestsDiffer_cardClient hrun
    (List.mem_append_right _ (List.mem_singleton.mpr rfl))
  rw [hright.2 (inDoubleRange_of_lt (by decide))]
  have hhead : (cardClient true).generateHead.toOption =
      some ("<style id=\"presets\">\n/* Typography Preset: Card */\n" ++
        ".has-type-preset-card \x7b\n    color: #123;\n\x7d\n</style>\n" : String) := by
    decide +kernel
  exact hhead

end Sharing

end StyleTokens.Client
