import StyleTokens.Cache.Basic
import StyleTokens.Cache.RedisStore
import StyleTokens.Proofs.Cache.Glob
import StyleTokens.Proofs.Dialogue

/-!
# Forgetting keys on a server

A store on a server forgets the keys that a pattern selects, which is a text with an asterisk behind
it. The text is taken as it is, so a scope may have characters in it that patterns give a meaning of
their own. The keys of a scope's stylesheets, and no others, are forgotten exactly if it has none.
-/

namespace StyleTokens

/-- Runs a computation with a client on a server that is a value. -/
def RedisDialogue.runOn {α : Type} (dialogue : RedisDialogue α) (server : RedisServer) :
    α × RedisServer :=
  dialogue.run (fun request server => server.answer request) server

namespace RedisServer

/-- A server that refuses nothing and selects keys by patterns. -/
structure IsGlobbing (server : RedisServer) : Prop where
  /-- Nothing is refused. -/
  granted : ∀ request, server.refusal request = none
  /-- A key is selected by the parts of the pattern. -/
  selects : server.selects = GlobPart.selects

/-- Such a server answers a request, and it holds what the request leaves. -/
theorem IsGlobbing.reply {α : Type} {server : RedisServer} (h : server.IsGlobbing)
    (request : RedisRequest) (result : α) (texts : Keyed String) :
    ∃ after, server.reply request result texts = (.ok result, after) ∧ after.IsGlobbing ∧
      after.texts = texts := by
  rw [RedisServer.reply, h.granted request]
  exact ⟨_, rfl, ⟨h.granted, h.selects⟩, rfl⟩

/-- Such a server with one key. -/
def holding (key text : String) : RedisServer :=
  ⟨[(key, text)], fun _ => none, GlobPart.selects, []⟩

theorem isGlobbing_holding (key text : String) : (holding key text).IsGlobbing :=
  ⟨fun _ => rfl, rfl⟩

end RedisServer

namespace RedisStore

variable {server : RedisServer} {store : RedisStore}

/-- A store can connect: it is connected, or it knows to what. -/
def IsConnectable (store : RedisStore) : Prop := store.connected = true ∨ store.url ≠ ""

/-- The keys that begin with a text have been forgotten and no others, and their number is told. -/
structure ForgetsPrefix (start : String) (texts : Keyed String)
    (outcome : (Except Fault Nat × RedisStore) × RedisServer) : Prop where
  /-- Their number. -/
  count : outcome.1.1 = .ok (texts.countP fun entry => entry.1.startsWith start)
  /-- What is left. -/
  texts : outcome.2.texts = texts.filter fun entry => !entry.1.startsWith start

/-- A store that can connect does, and the server holds what it held. -/
theorem runOn_connect (hserver : server.IsGlobbing) (hstore : store.IsConnectable) :
    ∃ after connected, store.connect.runOn server = ((.ok (), after), connected) ∧
      connected.IsGlobbing ∧ connected.texts = server.texts := by
  unfold connect
  by_cases hconnected : store.connected = true
  · rw [if_pos hconnected]
    exact ⟨store, server, rfl, hserver, rfl⟩
  · have hurl : ¬store.url.isEmpty = true := by
      simpa using hstore.resolve_left hconnected
    obtain ⟨called, hcall, hcalled, htexts⟩ := hserver.reply (.connect store.url) () server.texts
    obtain ⟨pinged, hping, hpinged, hsame⟩ := hcalled.reply .ping () called.texts
    rw [if_neg hconnected, if_neg hurl]
    refine ⟨⟨store.url, true⟩, pinged, ?_, hpinged, hsame.trans htexts⟩
    have hfirst : server.answer (.connect store.url) = (.ok (), called) := hcall
    have hsecond : called.answer .ping = (.ok (), pinged) := hping
    simp only [RedisDialogue.runOn, Dialogue.run, hfirst, hsecond]
    rfl

/-- The keys of a server that a pattern selects. -/
def selectedKeys (server : RedisServer) (pattern : String) : List String :=
  server.texts.names.filter (server.selects pattern)

theorem length_selectedKeys (hserver : server.IsGlobbing) (pattern : String) :
    (selectedKeys server pattern).length =
      server.texts.countP fun entry => GlobPart.selects pattern entry.1 := by
  rw [selectedKeys, hserver.selects, Keyed.names, ← List.countP_eq_length_filter, List.countP_map]
  rfl

/-- Without the selected keys there are left those that are not selected. -/
theorem filter_selectedKeys (hserver : server.IsGlobbing) (pattern : String) :
    (server.texts.filter fun entry => !(selectedKeys server pattern).contains entry.1) =
      server.texts.filter fun entry => !GlobPart.selects pattern entry.1 := by
  refine List.filter_congr fun entry hentry => congrArg not ?_
  have hname : entry.1 ∈ server.texts.names := List.mem_map_of_mem hentry
  rw [Bool.eq_iff_iff, List.contains_iff_mem, selectedKeys, hserver.selects, List.mem_filter]
  exact and_iff_right hname

/-- The keys that are forgotten are those that the pattern selects. -/
theorem runOn_deletePrefix (hserver : server.IsGlobbing) (start : String) :
    ∃ after, (deletePrefix start).runOn server =
        (.ok (server.texts.countP fun entry => GlobPart.selects (start ++ "*") entry.1), after) ∧
      after.texts =
        server.texts.filter fun entry => !GlobPart.selects (start ++ "*") entry.1 := by
  rw [← length_selectedKeys hserver, ← filter_selectedKeys hserver]
  obtain ⟨scanned, hscan, hscanned, htexts⟩ :=
    hserver.reply (.scan (start ++ "*")) (selectedKeys server (start ++ "*")) server.texts
  have hfirst : server.answer (.scan (start ++ "*")) =
      (.ok (selectedKeys server (start ++ "*")), scanned) := hscan
  unfold deletePrefix RedisDialogue.runOn
  simp only [Dialogue.run, hfirst]
  cases hkeys : selectedKeys server (start ++ "*") with
  | nil => exact ⟨scanned, rfl, by simpa using htexts⟩
  | cons key keys =>
    obtain ⟨deleted, hdelete, -, hleft⟩ := hscanned.reply (.delete (key :: keys)) ()
      (scanned.texts.filter fun entry => !(key :: keys).contains entry.1)
    have hsecond : scanned.answer (.delete (key :: keys)) = (.ok (), deleted) := hdelete
    refine ⟨deleted, ?_, by rw [hleft, htexts]⟩
    simp only [Dialogue.run, hsecond]
    rfl

/-- What a store forgets is what the pattern selects. -/
theorem runOn_answer (hserver : server.IsGlobbing) (hstore : store.IsConnectable)
    (start : String) :
    ∃ after left, (answer (.deletePrefix start) store).runOn server =
        ((.ok (server.texts.countP fun entry => GlobPart.selects (start ++ "*") entry.1), after),
          left) ∧
      left.texts = server.texts.filter fun entry => !GlobPart.selects (start ++ "*") entry.1 := by
  obtain ⟨after, connected, hconnect, hconnected, htexts⟩ := runOn_connect hserver hstore
  obtain ⟨left, hdelete, hleft⟩ := runOn_deletePrefix hconnected start
  rw [htexts] at hdelete hleft
  refine ⟨after, left, ?_, hleft⟩
  unfold RedisDialogue.runOn at hconnect hdelete ⊢
  change (Dialogue.bind store.connect _).run _ server = _
  rw [Dialogue.run_bind, hconnect]
  refine (Dialogue.run_bind _ (deletePrefix start) _ connected).trans ?_
  rw [hdelete]
  rfl

/-- A store forgets the keys that begin with a text, and no others, exactly if the text is of
characters that stand for themselves in a pattern. -/
theorem forgetsPrefix_iff (start : String) :
    (∀ (server : RedisServer) (store : RedisStore), server.IsGlobbing → store.IsConnectable →
      ForgetsPrefix start server.texts ((answer (.deletePrefix start) store).runOn server)) ↔
      ∀ c ∈ start.toList, GlobPart.isSpecial c = false := by
  rw [← GlobPart.selects_stem_iff]
  constructor
  · -- A server that holds a key alone tells whether the key is selected.
    intro hforgets key
    have hserver := RedisServer.isGlobbing_holding key ""
    have hstore : (⟨"", true⟩ : RedisStore).IsConnectable := .inl rfl
    obtain ⟨after, left, hrun, -⟩ := runOn_answer hserver hstore start
    have hcount := (hforgets _ _ hserver hstore).count
    rw [hrun] at hcount
    have hsame := Except.ok.inj hcount
    rw [RedisServer.holding, List.countP_singleton, List.countP_singleton] at hsame
    have hiff : ∀ p q : Bool, (if p then 1 else 0) = (if q then 1 else 0) → (p ↔ q) := by decide
    exact hiff _ _ hsame
  · intro hselects server store hserver hstore
    obtain ⟨after, left, hrun, hleft⟩ := runOn_answer hserver hstore start
    have hsame : ∀ key : String, GlobPart.selects (start ++ "*") key = key.startsWith start :=
      fun key => Bool.eq_iff_iff.mpr (hselects key)
    simp only [hsame] at hrun hleft
    rw [hrun]
    exact ⟨rfl, hleft⟩

end RedisStore

namespace SheetCache

open RedisStore

/-- Dropping all stylesheets of a scope on a server forgets their keys, and no others, exactly if
the scope has no asterisk, question mark, opening bracket or backslash. -/
theorem forgetsPrefix_entryStem_iff (cache : SheetCache) :
    (∀ (server : RedisServer) (store : RedisStore), server.IsGlobbing → store.IsConnectable →
      ForgetsPrefix cache.entryStem server.texts
        ((answer (.deletePrefix cache.entryStem) store).runOn server)) ↔
      ∀ c ∈ cache.scope.toList, c ≠ '*' ∧ c ≠ '?' ∧ c ≠ '[' ∧ c ≠ '\\' := by
  have hrest : ∀ c ∈ ":css:".toList, GlobPart.isSpecial c = false := by simp [GlobPart.isSpecial]
  rw [forgetsPrefix_iff, entryStem, String.toList_append, List.forall_mem_append]
  refine (and_iff_left hrest).trans (forall₂_congr fun c _ => ?_)
  simp [GlobPart.isSpecial, and_assoc]

/-- A scope with an asterisk drops a stylesheet of another scope. -/
theorem not_forgetsPrefix_asterisk :
    (RedisServer.holding "a-b:css:k" "x").IsGlobbing ∧ (⟨"", true⟩ : RedisStore).IsConnectable ∧
      ¬ForgetsPrefix (entryStem ⟨"a*b", .null⟩) (RedisServer.holding "a-b:css:k" "x").texts
        ((answer (.deletePrefix (entryStem ⟨"a*b", .null⟩)) ⟨"", true⟩).runOn
          (RedisServer.holding "a-b:css:k" "x")) := by
  have hserver := RedisServer.isGlobbing_holding "a-b:css:k" "x"
  have hstore : (⟨"", true⟩ : RedisStore).IsConnectable := .inl rfl
  refine ⟨hserver, hstore, fun hforgets => ?_⟩
  obtain ⟨after, left, hrun, -⟩ := runOn_answer hserver hstore (entryStem ⟨"a*b", .null⟩)
  have hcount := hforgets.count
  rw [hrun] at hcount
  have hselected : GlobPart.selects (entryStem ⟨"a*b", .null⟩ ++ "*") "a-b:css:k" = true := by
    decide
  have hstart : ¬"a-b:css:k".startsWith (entryStem ⟨"a*b", .null⟩) = true := by
    rw [String.startsWith_string_iff]
    decide
  have hsame := Except.ok.inj hcount
  rw [RedisServer.holding, List.countP_singleton, List.countP_singleton, if_pos hselected,
    if_neg hstart] at hsame
  cases hsame

end SheetCache

end StyleTokens
