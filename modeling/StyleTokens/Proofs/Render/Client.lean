import StyleTokens.Proofs.Cache.Action
import StyleTokens.Proofs.Cache.Envelope
import StyleTokens.Proofs.Cache.Key
import StyleTokens.Proofs.Dialogue
import StyleTokens.Render.Page

/-!
# Clients of a shared store

Several contexts share a store, each with presets, settings, a scope and a lifetime of its own. What
a client asks of the store is safe for the others: under a key of a stylesheet it puts nothing but
an envelope of that stylesheet. In return it may rely on finding nothing else there, and then
everything that it makes of what it finds is what it would have generated.
-/

namespace StyleTokens

/-! ### The head of a page as an action of the cache -/

namespace RenderContext

/-- The style element for the head of a page, its stylesheet from a cache if it is there. -/
def headFrom (context : RenderContext) (cache : SheetCache) : CacheAction String := do
  if context.output.presetCss.truthy then
    let sheet ← context.sheetFrom cache
    CacheAction.ofExcept (styleElementOfValue sheet context.output.styleId)
  else return ""

/-- Making the head of a page is that action on the context's store. -/
theorem headElement_eq_perform {context : RenderContext} {cache : SheetCache} {store : Store}
    (h : context.cache = some (cache, store)) :
    context.headElement =
      (store.perform (context.headFrom cache)).bind fun (outcome, after) =>
        .done (outcome, { context with cache := some (cache, after) }) := by
  unfold headElement pageSheet headFrom
  by_cases hwritten : context.output.presetCss.truthy = true
  · rw [if_pos hwritten, if_pos hwritten]
    unfold stylesheet Store.perform
    rw [h]
    -- What goes on after the stylesheet is served on its own.
    refine Eq.trans ?_ (congrArg (Dialogue.bind · _) (Dialogue.serve_bind Store.server
      (context.sheetFrom cache : CacheDialogue (Except Fault String)) _ store).symm)
    rw [Dialogue.bind_assoc, Dialogue.bind_assoc]
    refine congrArg _ (funext fun (outcome, after) => ?_)
    cases outcome <;> rfl
  · rw [if_neg hwritten, if_neg hwritten]
    obtain ⟨registry, tokens, opened, output, breakpoints, spacing⟩ := context
    obtain rfl : opened = some (cache, store) := h
    rfl

end RenderContext

/-! ### What a client does -/

/-- A context that shares a store with others. -/
structure Client where
  /-- The presets and the settings. -/
  context : RenderContext
  /-- What the store's keys of the client begin with. -/
  scope : String
  /-- For how many seconds an entry of the client is good; zero means for ever. -/
  ttl : Int

/-- What a client can be asked to do with its cache. -/
inductive Job where
  /-- The stylesheet. -/
  | stylesheet
  /-- The style element for the head of a page. -/
  | head
  /-- The style element for the head of the editor's preview. -/
  | editorHead
  /-- To drop all stylesheets of the client. -/
  | clear
  /-- To drop them if the preset source has changed, which has the given digest. -/
  | dropIfChanged (digest : String)

/-- What a job results in. -/
def Job.Result : Job → Type
  | .stylesheet | .head | .editorHead => String
  | .clear => Nat
  | .dropIfChanged _ => Bool

namespace Client

/-- The cache of a client. -/
def cache (client : Client) : SheetCache := ⟨client.scope, .num (.int client.ttl)⟩

/-- How a client does a job. -/
def action (client : Client) : (job : Job) → CacheAction job.Result
  | .stylesheet => client.context.sheetFrom client.cache
  | .head | .editorHead => client.context.headFrom client.cache
  | .clear => client.cache.clear
  | .dropIfChanged digest => client.cache.dropIfChanged digest

/-- The style element of the stylesheet, generated anew; nothing if it is not to be written. -/
def generateHead (client : Client) : Except Fault String :=
  if client.context.output.presetCss.truthy then
    client.context.generate.bind fun css => styleElementOfValue css client.context.output.styleId
  else .ok ""

/-- All that the stylesheet of a client is made from. -/
def inputs (client : Client) : Value :=
  inputsOfPresets client.context.registry.presets client.context.output.flags

/-- The properties of the presets and the settings that change the stylesheet are documents. -/
structure HoldsDocuments (client : Client) : Prop where
  /-- Every property of every preset. -/
  properties : ∀ entry ∈ client.context.registry.presets, ∀ property ∈ entry.2.properties,
    Json.IsDocument property.2
  /-- Whether rules have comments. -/
  annotate : Json.IsDocument client.context.output.annotate
  /-- Whether the stylesheet is written. -/
  presetCss : Json.IsDocument client.context.output.presetCss

/-- An outcome is the expected one: a text is the expected text, and anything else is expected, too,
unless the lifetime of the client's entries is past every double. -/
def Returns (client : Client) (expected outcome : Except Fault String) : Prop :=
  (∀ text, outcome = .ok text → expected = .ok text) ∧
    (InDoubleRange client.ttl → outcome = expected)

variable {ι : Type}

/-- The digest tells the canonical texts apart that the stylesheets of the clients are made from. -/
def DigestsDiffer (clients : ι → Client) : Prop :=
  ∀ i j text text', Json.canonical (clients i).inputs = .ok text →
    Json.canonical (clients j).inputs = .ok text' →
      Sha256.ofText text = Sha256.ofText text' → text = text'

/-- A text under a key is an envelope of the stylesheet of every client with that key. -/
def Genuine (clients : ι → Client) (key text : String) : Prop :=
  ∀ i digest, (clients i).context.sheetKey = .ok digest → key = (clients i).cache.entryKey digest →
    ∃ css created ttl, (clients i).context.generate = .ok css ∧ InDoubleRange ttl ∧
      text = Envelope.write css created (.num (.int ttl))

/-- The requests that are safe for all clients: what is put under a key of a stylesheet is an
envelope of it, and has the lifetime that the envelope shows. -/
def Allowed (clients : ι → Client) : CacheRequest → Prop
  | .store (.set key text lifetime) => ∃ ttl, lifetime = lifetimeOf ttl ∧
      ∀ i digest, (clients i).context.sheetKey = .ok digest →
        key = (clients i).cache.entryKey digest →
          ∃ css created, (clients i).context.generate = .ok css ∧
            text = Envelope.write css created (.num (.int ttl))
  | _ => True

/-- The backend could not be reached. -/
def Unavailable {α : Type} (outcome : Except Fault α) : Prop :=
  ∃ report, outcome = .error (.cacheUnavailable report)

/-- The answers that clients rely on: a store that can be reached finds genuine texts only, and puts
whatever has a lifetime that can be added to the time. -/
def Possible (clients : ι → Client) : (r : CacheRequest) → r.Answer → Prop
  | .store (.get key), answer => Unavailable answer ∨
      ∃ found, answer = .ok found ∧ ∀ text, found = some text → Genuine clients key text
  | .store (.set _ _ lifetime), answer => Unavailable answer ∨
      ∃ now, answer = (expiryOf now lifetime).map fun _ => ()
  | .store (.delete _), answer => Unavailable answer ∨ answer = .ok ()
  | .store (.deletePrefix _), answer => Unavailable answer ∨ ∃ count, answer = .ok count
  | .clock, _ | .note _, _ => True

section Keys

variable {clients : ι → Client}

/-- The key of a client's stylesheet is the digest of a canonical text. -/
theorem exists_sheetKey {client : Client} (h : client.HoldsDocuments) :
    ∃ text, Json.canonical client.inputs = .ok text ∧
      client.context.sheetKey = .ok (Sha256.ofText text) := by
  have hdocument : Json.IsDocument client.inputs :=
    isDocument_inputsOfPresets h.properties h.annotate h.presetCss
  obtain ⟨w, -, -, hcanonical⟩ := Json.exists_canonical hdocument
  refine ⟨_, hcanonical, ?_⟩
  have hkey : client.context.sheetKey = (Json.canonical client.inputs).map Sha256.ofText := rfl
  rw [hkey, hcanonical]
  rfl

/-- Clients whose stylesheets have the same key in the store have the same stylesheet. -/
theorem generate_eq_of_entryKey_eq (hdocuments : ∀ i, (clients i).HoldsDocuments)
    (hdigests : DigestsDiffer clients) {i j : ι} {digest digest' : String}
    (hi : (clients i).context.sheetKey = .ok digest)
    (hj : (clients j).context.sheetKey = .ok digest')
    (hkey : (clients i).cache.entryKey digest = (clients j).cache.entryKey digest') :
    (clients i).context.generate = (clients j).context.generate := by
  obtain ⟨text, htext, hdigest⟩ := exists_sheetKey (hdocuments i)
  obtain ⟨text', htext', hdigest'⟩ := exists_sheetKey (hdocuments j)
  rw [hdigest] at hi
  rw [hdigest'] at hj
  rw [← Except.ok.inj hi, ← Except.ok.inj hj] at hkey
  have hsame := hdigests i j text text' htext htext' (SheetCache.ofText_eq_of_entryKey_eq hkey)
  subst hsame
  exact presetSheet_eq_of_canonical_eq
    (isDocument_inputsOfPresets (hdocuments i).properties (hdocuments i).annotate
      (hdocuments i).presetCss)
    (isDocument_inputsOfPresets (hdocuments j).properties (hdocuments j).annotate
      (hdocuments j).presetCss) htext htext'

end Keys

section Safety

variable {clients : ι → Client} {i : ι} {digest : String}

/-- An envelope of a text is that text, unless it is stale. -/
theorem textOf_upholds {right : Except Fault (Option String) → Prop} (key : String)
    {envelope : Envelope} {css : String} (hvalue : envelope.value.text? = some css)
    (hrange : InDoubleRange envelope.ttl) (hfresh : right (.ok (some css)))
    (hstale : right (.ok none)) :
    (SheetCache.textOf key envelope).Upholds (Allowed clients) (Possible clients) right := by
  unfold SheetCache.textOf
  rw [hvalue, Envelope.expiry_eq, if_pos hrange]
  cases deadline envelope.created envelope.ttl with
  | none => exact hfresh
  | some time =>
    refine CacheAction.Upholds.ok_bind (CacheAction.Upholds.clock_bind trivial fun now => ?_)
    split
    · exact CacheAction.Upholds.note_bind (fun _ => trivial) (CacheAction.Upholds.pure hstale)
    · exact CacheAction.Upholds.pure hfresh

/-- What a client finds under the key of its stylesheet is its stylesheet, or nothing. -/
theorem get_upholds (hkey : (clients i).context.sheetKey = .ok digest) :
    ((clients i).cache.get digest).Upholds (Allowed clients) (Possible clients) fun outcome =>
      Unavailable outcome ∨ outcome = .ok none ∨
        ∃ css, (clients i).context.generate = .ok css ∧ outcome = .ok (some css) := by
  refine CacheAction.Upholds.bind (CacheAction.Upholds.call trivial fun answer hanswer => ⟨?_, ?_⟩)
  · intro found hfound
    obtain ⟨report, hreport⟩ | ⟨_, heq, hgenuine⟩ := hanswer
    · rw [hfound] at hreport
      cases hreport
    obtain rfl := Except.ok.inj (hfound.symm.trans heq)
    cases found with
    | none => exact CacheAction.Upholds.pure (.inr (.inl rfl))
    | some text =>
      obtain ⟨css, created, ttl, hgenerate, hrange, rfl⟩ := hgenuine text rfl i digest hkey rfl
      dsimp only
      rw [Envelope.read_write css created hrange]
      refine CacheAction.Upholds.ok_bind ?_
      dsimp only
      refine textOf_upholds digest rfl hrange ?_ ?_
      · exact .inr (.inr ⟨css, hgenerate, rfl⟩)
      · exact .inr (.inl rfl)
  · intro fault hfault
    obtain ⟨report, hreport⟩ | ⟨_, heq, -⟩ := hanswer
    · rw [hfault] at hreport
      exact .inl ⟨report, congrArg _ (Except.error.inj hreport)⟩
    · rw [hfault] at heq
      cases heq

/-- Putting a client's stylesheet under its key is safe. It fails only with the backend, or if the
lifetime is past every double. -/
theorem put_upholds (hdocuments : ∀ i, (clients i).HoldsDocuments)
    (hdigests : DigestsDiffer clients) (hkey : (clients i).context.sheetKey = .ok digest)
    {css : String} (hgenerate : (clients i).context.generate = .ok css) :
    ((clients i).cache.put digest css none).Upholds (Allowed clients) (Possible clients)
      fun outcome => Unavailable outcome ∨ outcome = .ok () ∨
        ¬InDoubleRange (clients i).ttl ∧ outcome = .error .integerRange := by
  refine CacheAction.Upholds.clock_bind trivial fun now => ?_
  refine CacheAction.Upholds.call ?_ fun answer hanswer => ?_
  · refine ⟨(clients i).ttl, lifetimeOf_eq _, fun j digest' hkey' hsame => ⟨css, now, ?_, rfl⟩⟩
    rw [← hgenerate]
    exact (generate_eq_of_entryKey_eq hdocuments hdigests hkey hkey' hsame).symm
  · obtain hdown | ⟨time, heq⟩ := hanswer
    · exact .inl hdown
    · have hanswer : answer = (expiryOf time (lifetimeOf (clients i).ttl)).map fun _ => () :=
        heq.trans (congrArg (fun lifetime => (expiryOf time lifetime).map fun _ => ())
          (lifetimeOf_eq (clients i).ttl))
      rw [hanswer, expiryOf_lifetimeOf]
      split_ifs with hrange
      · exact .inr (.inl rfl)
      · exact .inr (.inr ⟨hrange, rfl⟩)

/-- Looking a client's stylesheet up finds it or does not. -/
theorem lookup_upholds (hkey : (clients i).context.sheetKey = .ok digest) :
    ((clients i).cache.lookup digest).Upholds (Allowed clients) (Possible clients) fun outcome =>
      outcome = .ok .miss ∨ outcome = .ok .unavailable ∨
        ∃ css, (clients i).context.generate = .ok css ∧ outcome = .ok (.hit css) := by
  refine CacheAction.Upholds.orUnavailable (CacheAction.Upholds.bind
    ((get_upholds hkey).mono fun outcome houtcome => ⟨?_, ?_⟩))
  · intro found hfound
    obtain ⟨report, hreport⟩ | hnone | ⟨css, hgenerate, hsome⟩ := houtcome
    · rw [hfound] at hreport
      cases hreport
    · obtain rfl := Except.ok.inj (hfound.symm.trans hnone)
      exact CacheAction.Upholds.pure ⟨nofun, fun _ => .inl rfl⟩
    · obtain rfl := Except.ok.inj (hfound.symm.trans hsome)
      exact CacheAction.Upholds.pure ⟨nofun, fun _ => .inr (.inr ⟨css, hgenerate, rfl⟩)⟩
  · intro fault hfault
    obtain ⟨report, hreport⟩ | hnone | ⟨css, -, hsome⟩ := houtcome
    · obtain rfl := Except.error.inj (hfault.symm.trans hreport)
      refine ⟨fun report' _ => ?_, fun hother => absurd rfl (hother report)⟩
      exact CacheAction.Upholds.note_bind (fun _ => trivial)
        (CacheAction.Upholds.pure (.inr (.inl rfl)))
    · rw [hfault] at hnone
      cases hnone
    · rw [hfault] at hsome
      cases hsome

/-- Putting a client's stylesheet under its key can fail only for its lifetime. -/
theorem tryPut_upholds (hdocuments : ∀ i, (clients i).HoldsDocuments)
    (hdigests : DigestsDiffer clients) (hkey : (clients i).context.sheetKey = .ok digest)
    {css : String} (hgenerate : (clients i).context.generate = .ok css) :
    ((clients i).cache.tryPut digest css none).Upholds (Allowed clients) (Possible clients)
      fun outcome => outcome = .ok () ∨
        ¬InDoubleRange (clients i).ttl ∧ outcome = .error .integerRange := by
  refine CacheAction.Upholds.orUnavailable
    ((put_upholds hdocuments hdigests hkey hgenerate).mono fun outcome houtcome => ⟨?_, ?_⟩)
  · intro report _
    exact CacheAction.Upholds.note (fun _ => trivial) (.inl rfl)
  · intro hother
    obtain ⟨report, hreport⟩ | hright := houtcome
    · exact absurd hreport (hother report)
    · exact hright

/-- What a client gets or generates is what it would have generated. -/
theorem getOrGenerate_upholds (hdocuments : ∀ i, (clients i).HoldsDocuments)
    (hdigests : DigestsDiffer clients) (hkey : (clients i).context.sheetKey = .ok digest) :
    ((clients i).cache.getOrGenerate digest (fun _ => (clients i).context.generate) none).Upholds
      (Allowed clients) (Possible clients) fun outcome =>
        (∃ css anew, (clients i).context.generate = .ok css ∧ outcome = .ok (css, anew)) ∨
          (∃ fault, (clients i).context.generate = .error fault ∧ outcome = .error fault) ∨
            ¬InDoubleRange (clients i).ttl ∧ outcome = .error .integerRange := by
  refine CacheAction.Upholds.bind ((lookup_upholds hkey).mono fun outcome houtcome => ⟨?_, ?_⟩)
  · intro found hfound
    cases found with
    | hit css =>
      obtain hmiss | hdown | ⟨css', hgenerate, hhit⟩ := houtcome
      · rw [hfound] at hmiss
        cases hmiss
      · rw [hfound] at hdown
        cases hdown
      · rw [hfound] at hhit
        cases hhit
        exact CacheAction.Upholds.pure (.inl ⟨css, false, hgenerate, rfl⟩)
    | unavailable =>
      cases hgenerate : (clients i).context.generate with
      | ok css => exact CacheAction.Upholds.pure (.inl ⟨css, true, rfl, rfl⟩)
      | error fault => exact .inr (.inl ⟨fault, rfl, rfl⟩)
    | miss =>
      cases hgenerate : (clients i).context.generate with
      | ok css =>
        refine CacheAction.Upholds.ok_bind (CacheAction.Upholds.bind
          ((tryPut_upholds hdocuments hdigests hkey hgenerate).mono fun outcome hput => ⟨?_, ?_⟩))
        · intro _ _
          exact CacheAction.Upholds.pure (.inl ⟨css, true, rfl, rfl⟩)
        · intro fault hfault
          obtain hok | ⟨hnot, hrange⟩ := hput
          · rw [hfault] at hok
            cases hok
          · exact .inr (.inr ⟨hnot, congrArg _ (Except.error.inj (hfault.symm.trans hrange))⟩)
      | error fault => exact .inr (.inl ⟨fault, rfl, rfl⟩)
  · intro fault hfault
    obtain hmiss | hdown | ⟨css, -, hhit⟩ := houtcome
    · rw [hfault] at hmiss
      cases hmiss
    · rw [hfault] at hdown
      cases hdown
    · rw [hfault] at hhit
      cases hhit

/-- The stylesheet of a client, from the cache if it is there, is the generated one. -/
theorem sheetFrom_upholds (hdocuments : ∀ i, (clients i).HoldsDocuments)
    (hdigests : DigestsDiffer clients) (i : ι) :
    ((clients i).context.sheetFrom (clients i).cache).Upholds (Allowed clients) (Possible clients)
      ((clients i).Returns (clients i).context.generate) := by
  obtain ⟨text, -, hkey⟩ := exists_sheetKey (hdocuments i)
  unfold RenderContext.sheetFrom
  rw [hkey]
  refine CacheAction.Upholds.ok_bind (CacheAction.Upholds.bind
    ((getOrGenerate_upholds hdocuments hdigests hkey).mono fun outcome houtcome => ⟨?_, ?_⟩))
  · rintro ⟨sheet, anew⟩ hsheet
    obtain ⟨css, anew', hgenerate, heq⟩ | ⟨fault, -, heq⟩ | ⟨-, heq⟩ := houtcome
    · obtain ⟨rfl, rfl⟩ := Prod.mk.inj (Except.ok.inj (hsheet.symm.trans heq))
      refine CacheAction.Upholds.pure ⟨fun text htext => ?_, fun _ => hgenerate.symm⟩
      rw [hgenerate, htext]
    · rw [hsheet] at heq
      cases heq
    · rw [hsheet] at heq
      cases heq
  · intro fault hfault
    refine ⟨nofun, fun hrange => ?_⟩
    obtain ⟨css, anew, -, heq⟩ | ⟨fault', hgenerate, heq⟩ | ⟨hnot, -⟩ := houtcome
    · rw [hfault] at heq
      cases heq
    · rw [hgenerate, ← Except.error.inj (hfault.symm.trans heq)]
    · exact absurd hrange hnot

/-- The style element of a client's stylesheet is that of the generated one. -/
theorem headFrom_upholds (hdocuments : ∀ i, (clients i).HoldsDocuments)
    (hdigests : DigestsDiffer clients) (i : ι) :
    ((clients i).context.headFrom (clients i).cache).Upholds (Allowed clients) (Possible clients)
      ((clients i).Returns (clients i).generateHead) := by
  unfold RenderContext.headFrom generateHead
  split
  · refine CacheAction.Upholds.bind
      ((sheetFrom_upholds hdocuments hdigests i).mono fun outcome houtcome => ⟨?_, ?_⟩)
    · intro sheet hsheet
      rw [houtcome.1 sheet hsheet]
      exact CacheAction.Upholds.ofExcept ⟨fun text htext => htext, fun _ => rfl⟩
    · intro fault hfault
      refine ⟨nofun, fun hrange => ?_⟩
      rw [← houtcome.2 hrange, hfault]
      rfl
  · exact CacheAction.Upholds.pure ⟨fun text htext => htext, fun _ => rfl⟩

/-- Dropping the stylesheets of a client is safe. -/
theorem clear_upholds (client : Client) :
    client.cache.clear.Upholds (Allowed clients) (Possible clients) fun _ => True := by
  refine CacheAction.Upholds.bind (CacheAction.Upholds.call trivial fun answer _ => ⟨?_, ?_⟩)
  · intro count _
    exact CacheAction.Upholds.note_bind (fun _ => trivial) (CacheAction.Upholds.pure trivial)
  · intro fault _
    trivial

/-- Remembering the digest of a preset source is safe, since its key is no stylesheet's. -/
theorem replaceDigest_upholds (hdocuments : ∀ i, (clients i).HoldsDocuments) (client : Client)
    (digest : String) :
    (client.cache.replaceDigest digest).Upholds (Allowed clients) (Possible clients)
      fun _ => True := by
  refine CacheAction.Upholds.bind (CacheAction.Upholds.call trivial fun answer _ =>
    ⟨fun stored _ => ?_, fun _ _ => trivial⟩)
  split
  · exact CacheAction.Upholds.pure trivial
  · refine CacheAction.Upholds.bind (CacheAction.Upholds.call trivial fun answer _ =>
      ⟨fun count _ => ?_, fun _ _ => trivial⟩)
    refine CacheAction.Upholds.bind (CacheAction.Upholds.call ?_ fun answer _ =>
      ⟨fun _ _ => CacheAction.Upholds.pure trivial, fun _ _ => trivial⟩)
    refine ⟨0, rfl, fun j digest' hkey hsame => ?_⟩
    obtain ⟨text, -, htext⟩ := exists_sheetKey (hdocuments j)
    rw [htext] at hkey
    rw [← Except.ok.inj hkey] at hsame
    exact absurd hsame (SheetCache.digestKey_ne_entryKey client.cache (clients j).cache
      (Sha256.colon_not_mem_ofText text))

/-- Dropping the stylesheets of a client whose source has changed is safe. -/
theorem dropIfChanged_upholds (hdocuments : ∀ i, (clients i).HoldsDocuments) (client : Client)
    (digest : String) :
    (client.cache.dropIfChanged digest).Upholds (Allowed clients) (Possible clients)
      fun _ => True := by
  refine CacheAction.Upholds.bind (CacheAction.Upholds.orUnavailable
    ((replaceDigest_upholds hdocuments client digest).mono fun outcome _ => ⟨?_, ?_⟩))
  · intro report _
    refine CacheAction.Upholds.note_bind (fun _ => trivial) (CacheAction.Upholds.pure
      ⟨fun changed hchanged => ?_, fun _ _ => trivial⟩)
    rw [← Except.ok.inj hchanged]
    exact CacheAction.Upholds.pure trivial
  · intro _
    refine ⟨fun changed _ => ?_, fun _ _ => trivial⟩
    cases changed with
    | true =>
      exact CacheAction.Upholds.note_bind (fun _ => trivial) (CacheAction.Upholds.pure trivial)
    | false => exact CacheAction.Upholds.pure trivial

/-- What an outcome of a job has to be: a stylesheet or a head is the generated one. -/
def Right (client : Client) : (job : Job) → Except Fault job.Result → Prop
  | .stylesheet, outcome => client.Returns client.context.generate outcome
  | .head, outcome | .editorHead, outcome => client.Returns client.generateHead outcome
  | .clear, _ | .dropIfChanged _, _ => True

/-- Every job of a client is done right by safe requests. -/
theorem action_upholds (hdocuments : ∀ i, (clients i).HoldsDocuments)
    (hdigests : DigestsDiffer clients) (i : ι) (job : Job) :
    ((clients i).action job).Upholds (Allowed clients) (Possible clients)
      ((clients i).Right job) := by
  cases job with
  | stylesheet => exact sheetFrom_upholds hdocuments hdigests i
  | head => exact headFrom_upholds hdocuments hdigests i
  | editorHead => exact headFrom_upholds hdocuments hdigests i
  | clear => exact clear_upholds (clients i)
  | dropIfChanged digest => exact dropIfChanged_upholds hdocuments (clients i) digest

end Safety

end Client

end StyleTokens
