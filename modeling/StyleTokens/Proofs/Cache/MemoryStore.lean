import Mathlib.Tactic.SplitIfs
import StyleTokens.Cache.MemoryStore
import StyleTokens.Proofs.Keyed

/-!
# What a store in memory holds

A store in memory is seen through the entry under each key, expired or not. Every call is told by
what it does to that view: a call leaves all keys alone that it does not reach, and whatever stands
under a key has either been there before or was just put.
-/

namespace StyleTokens

/-- Whether a call of a store can change what stands under a key. -/
def StoreRequest.Reaches (key : String) : StoreRequest → Prop
  | .get other | .set other _ _ | .delete other => other = key
  | .deletePrefix start => key.startsWith start = true

namespace MemoryStore

/-- The entry under a key, expired or not. -/
def find? (store : MemoryStore) (key : String) : Option MemoryEntry := store.entries.find? key

@[simp] theorem find?_empty (key : String) : empty.find? key = none := rfl

theorem find?_erase (store : MemoryStore) (key other : String) :
    (store.erase key).find? other = if other = key then none else store.find? other := by
  unfold erase find?
  rw [Keyed.find?_filter store.entries (fun name => name != key)]
  by_cases h : other = key <;> simp [h]

theorem find?_erasePrefix (store : MemoryStore) (start key : String) :
    (store.erasePrefix start).find? key =
      if key.startsWith start then none else store.find? key := by
  unfold erasePrefix find?
  rw [Keyed.find?_filter store.entries (fun name => !name.startsWith start)]
  by_cases h : key.startsWith start = true <;> simp [h]

/-- What is found under a key: the text of its entry, unless that has expired. -/
theorem get_fst (store : MemoryStore) (now : Binary64) (key : String) :
    (store.get now key).1 =
      ((store.find? key).filter fun entry => !entry.isExpired now).map (·.text) := by
  unfold get find?
  cases store.entries.find? key with
  | none => rfl
  | some entry => by_cases h : entry.isExpired now = true <;> simp [Option.filter, h]

/-- Looking under a key forgets its entry if that has expired. -/
theorem find?_get (store : MemoryStore) (now : Binary64) (key other : String) :
    (store.get now key).2.find? other =
      if other = key then (store.find? key).filter fun entry => !entry.isExpired now
      else store.find? other := by
  have hentries : store.entries.find? key = store.find? key := rfl
  unfold get
  rw [hentries]
  by_cases hother : other = key
  · rw [if_pos hother, hother]
    cases hentry : store.find? key with
    | none => simpa using hentry
    | some entry =>
      by_cases h : entry.isExpired now = true
      · simp [h, Option.filter, find?_erase]
      · simp [h, Option.filter, hentry]
  · rw [if_neg hother]
    cases store.find? key with
    | none => rfl
    | some entry =>
      by_cases h : entry.isExpired now = true
      · simp [h, find?_erase, hother]
      · simp [h]

/-- A text whose lifetime can be added to the time is put under its key. -/
theorem answer_set_of_ok {now : Binary64} {ttl : Option Scalar} {expires : Option Number}
    (h : expiryOf now ttl = .ok expires) (store : MemoryStore) (key text : String) :
    store.answer now (.set key text ttl) = (.ok (), ⟨store.entries.put key ⟨text, expires⟩⟩) := by
  simp only [answer, set, h, Except.map]

/-- A lifetime that cannot be added to the time changes nothing. -/
theorem answer_set_of_error {now : Binary64} {ttl : Option Scalar} {fault : Fault}
    (h : expiryOf now ttl = .error fault) (store : MemoryStore) (key text : String) :
    store.answer now (.set key text ttl) = (.error fault, store) := by
  simp only [answer, set, h, Except.map]

/-- Putting a text fails exactly with its lifetime. -/
theorem answer_set_fst (store : MemoryStore) (now : Binary64) (key text : String)
    (ttl : Option Scalar) :
    (store.answer now (.set key text ttl)).1 = (expiryOf now ttl).map fun _ => () := by
  cases hexpires : expiryOf now ttl with
  | error fault => rw [answer_set_of_error hexpires]; rfl
  | ok expires => rw [answer_set_of_ok hexpires]; rfl

theorem find?_put (store : MemoryStore) (key other : String) (entry : MemoryEntry) :
    find? ⟨store.entries.put key entry⟩ other =
      if key = other then some entry else store.find? other :=
  Keyed.find?_put store.entries key other entry

/-- A call leaves all keys alone that it does not reach. -/
theorem find?_answer_of_not_reaches {request : StoreRequest} {key : String}
    (h : ¬request.Reaches key) (now : Binary64) (store : MemoryStore) :
    (store.answer now request).2.find? key = store.find? key := by
  cases request with
  | get other => exact (find?_get store now other key).trans (if_neg (Ne.symm h))
  | set other text ttl =>
    cases hexpires : expiryOf now ttl with
    | error fault => rw [answer_set_of_error hexpires]
    | ok expires =>
      rw [answer_set_of_ok hexpires]
      exact (find?_put store other key _).trans (if_neg h)
  | delete other => exact (find?_erase store other key).trans (if_neg (Ne.symm h))
  | deletePrefix start => exact (find?_erasePrefix store start key).trans (if_neg h)

/-- What stands under a key after a call was there before, or the call has just put it there. -/
theorem find?_answer {request : StoreRequest} {now : Binary64} {store : MemoryStore} {key : String}
    {entry : MemoryEntry} (h : (store.answer now request).2.find? key = some entry) :
    store.find? key = some entry ∨
      ∃ ttl, request = .set key entry.text ttl ∧ expiryOf now ttl = .ok entry.expires := by
  cases request with
  | get other =>
    have hget := (find?_get store now other key).symm.trans h
    split_ifs at hget with hsame
    · exact .inl (hsame ▸ (Option.filter_eq_some_iff.mp hget).1)
    · exact .inl hget
  | set other text ttl =>
    cases hexpires : expiryOf now ttl with
    | error fault =>
      rw [answer_set_of_error hexpires] at h
      exact .inl h
    | ok expires =>
      rw [answer_set_of_ok hexpires] at h
      have hput := (find?_put store other key _).symm.trans h
      split_ifs at hput with hsame
      · cases hput
        exact .inr ⟨ttl, by rw [hsame], hexpires⟩
      · exact .inl hput
  | delete other =>
    have herase := (find?_erase store other key).symm.trans h
    split_ifs at herase
    exact .inl herase
  | deletePrefix start =>
    have herase := (find?_erasePrefix store start key).symm.trans h
    split_ifs at herase
    exact .inl herase

end MemoryStore

end StyleTokens
