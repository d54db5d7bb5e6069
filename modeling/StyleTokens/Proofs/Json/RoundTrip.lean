import StyleTokens.Proofs.Json.Number
import StyleTokens.Proofs.Json.Text
import StyleTokens.Proofs.Outcome
import StyleTokens.Proofs.Value.Entries

/-!
# Documents are read back

A value that a document can hold is read back from its text: the reader has to have room for its
depth and one step for every character. Two values with the same text are therefore the same, however
deep they are.
-/

namespace StyleTokens.Json

/-- A scalar that a document can hold: no day or time, and no whole number of too many digits. -/
def IsAtom : Scalar → Prop
  | .num (.int n) => digitCount n.natAbs ≤ digitLimit
  | .calendar _ => False
  | _ => True

mutual

/-- A value that a document can hold: the keys of its maps are texts, and all different. -/
def IsDocument : Value → Prop
  | .scalar s => IsAtom s
  | .list items => AreDocuments items
  | .map entries => (entries.map (·.1)).Nodup ∧ AreMembers entries

/-- Values that a document can hold. -/
def AreDocuments : List Value → Prop
  | [] => True
  | item :: rest => IsDocument item ∧ AreDocuments rest

/-- Entries that a document can hold, as far as each of them alone can tell. -/
def AreMembers : List (Scalar × Value) → Prop
  | [] => True
  | (key, value) :: rest => (∃ name, key = .str name) ∧ IsDocument value ∧ AreMembers rest

end

theorem areDocuments_iff {items : List Value} :
    AreDocuments items ↔ ∀ item ∈ items, IsDocument item := by
  induction items with
  | nil => simp [AreDocuments]
  | cons item rest ih => simp [AreDocuments, ih]

theorem areMembers_iff {entries : List (Scalar × Value)} :
    AreMembers entries ↔
      ∀ entry ∈ entries, (∃ name, entry.1 = .str name) ∧ IsDocument entry.2 := by
  induction entries with
  | nil => simp [AreMembers]
  | cons entry rest ih =>
    obtain ⟨key, value⟩ := entry
    simp [AreMembers, ih, and_assoc]

mutual

/-- How many lists and maps stand in each other in a value. -/
def depth : Value → Nat
  | .scalar _ => 0
  | .list items => depthOfItems items + 1
  | .map entries => depthOfMembers entries + 1

/-- The depth of the deepest item. -/
def depthOfItems : List Value → Nat
  | [] => 0
  | item :: rest => max (depth item) (depthOfItems rest)

/-- The depth of the deepest entry. -/
def depthOfMembers : List (Scalar × Value) → Nat
  | [] => 0
  | (_, value) :: rest => max (depth value) (depthOfMembers rest)

end

/-- A style whose separators are a comma and a colon, with nothing but spaces behind them. -/
structure Style.IsPlain (style : Style) : Prop where
  /-- Items are separated by a comma. -/
  items : ∃ k, style.itemSeparator.toList = ',' :: List.replicate k ' '
  /-- Keys and values are separated by a colon. -/
  keys : ∃ k, style.keySeparator.toList = ':' :: List.replicate k ' '

theorem Style.isPlain_canonical : Style.canonical.IsPlain := ⟨⟨0, rfl⟩, ⟨0, rfl⟩⟩

theorem Style.isPlain_ascii7 : Style.ascii7.IsPlain := ⟨⟨1, rfl⟩, ⟨1, rfl⟩⟩

/-- A scalar other than a text is read back. -/
theorem readAtom_scalarText (ascii : Bool) {s : Scalar} (h : IsAtom s)
    (htext : ∀ text, s ≠ .str text) {rest : List Char} (hrest : Delimited rest) :
    readAtom (scalarText ascii s ++ rest) = .ok (s, rest) := by
  cases s with
  | null =>
    rw [show scalarText ascii .null = ['n', 'u', 'l', 'l'] from rfl]
    exact readAtom_word (by simp [literals_eq]) rest
  | bool b =>
    cases b with
    | true =>
      rw [show scalarText ascii (.bool true) = ['t', 'r', 'u', 'e'] from rfl]
      exact readAtom_word (by simp [literals_eq]) rest
    | false =>
      rw [show scalarText ascii (.bool false) = ['f', 'a', 'l', 's', 'e'] from rfl]
      exact readAtom_word (by simp [literals_eq]) rest
  | num n =>
    cases n with
    | int n => exact readAtom_int h hrest
    | float x => exact readAtom_float x hrest
  | str text => exact absurd rfl (htext text)
  | calendar time => exact h.elim

/-- Whether an atom may begin with a character: a digit, a sign or the first letter of a word. -/
def beginsAtom (c : Char) : Bool :=
  c.isDigit || c == '-' || c == 'n' || c == 't' || c == 'f' || c == 'N' || c == 'I'

/-- What is read as an atom begins like one. -/
theorem exists_head_of_readAtom {text : List Char} {r : Scalar × List Char}
    (h : readAtom text = .ok r) : ∃ c more, text = c :: more ∧ beginsAtom c = true := by
  cases text with
  | nil => cases h
  | cons c more =>
    refine ⟨c, more, rfl, ?_⟩
    by_contra hc
    simp only [beginsAtom, Bool.or_eq_true, beq_iff_eq, not_or] at hc
    obtain ⟨⟨⟨⟨⟨⟨hdigit, hminus⟩, hn⟩, ht⟩, hf⟩, hN⟩, hI⟩ := hc
    have hliteral : readLiteral (c :: more) = none := by
      unfold readLiteral
      rw [literals_eq]
      simp [Ne.symm hminus, Ne.symm hn, Ne.symm ht, Ne.symm hf, Ne.symm hN, Ne.symm hI]
    rw [readAtom_unsigned hliteral hminus, map_eq_ok_iff] at h
    obtain ⟨result, hresult, -⟩ := h
    obtain ⟨d, rest, heq, hd⟩ := exists_digit_of_readUnsigned hresult
    rw [(List.cons.inj heq).1] at hdigit
    exact hdigit hd

/-- A character that no atom begins with is another one than the first of an atom. -/
theorem ne_of_beginsAtom {c d : Char} (hc : beginsAtom c = true) (hd : beginsAtom d = false) :
    c ≠ d := by
  rintro rfl
  rw [hc] at hd
  cases hd

/-- Space in front of a text does not count. -/
theorem skipSpace_replicate_append (k : Nat) (text : List Char) :
    skipSpace (List.replicate k ' ' ++ text) = skipSpace text := by
  unfold skipSpace
  exact List.dropWhile_append_of_pos fun c hc => by rw [(List.mem_replicate.mp hc).2]; rfl

/-- A text that begins with no space is left as it is. -/
theorem skipSpace_cons {c : Char} (h : isSpace c = false) (text : List Char) :
    skipSpace (c :: text) = c :: text := by
  simp [skipSpace, h]

section Reader

variable {room steps : Nat} {text rest : List Char}

theorem readValue_skip (room steps k : Nat) (text : List Char) :
    readValue room steps (List.replicate k ' ' ++ text) = readValue room steps text := by
  cases steps with
  | zero => simp only [readValue]
  | succ steps => simp only [readValue, skipSpace_replicate_append]

theorem readItems_skip (room steps k : Nat) (text : List Char) :
    readItems room steps (List.replicate k ' ' ++ text) = readItems room steps text := by
  cases steps with
  | zero => simp only [readItems]
  | succ steps => simp only [readItems, readValue_skip]

theorem readMembers_skip (room steps k : Nat) (text : List Char) :
    readMembers room steps (List.replicate k ' ' ++ text) = readMembers room steps text := by
  cases steps with
  | zero => simp only [readMembers]
  | succ steps => simp only [readMembers, skipSpace_replicate_append]

/-- An atom is a value. -/
theorem readValue_atom {s : Scalar} (h : readAtom text = .ok (s, rest)) :
    readValue room (steps + 1) text = .ok (.scalar s, rest) := by
  obtain ⟨c, more, rfl, hc⟩ := exists_head_of_readAtom h
  have hspace : isSpace c = false := by
    have hblank := ne_of_beginsAtom hc (show beginsAtom ' ' = false by decide)
    have htab := ne_of_beginsAtom hc (show beginsAtom '\t' = false by decide)
    have hline := ne_of_beginsAtom hc (show beginsAtom '\n' = false by decide)
    have hreturn := ne_of_beginsAtom hc (show beginsAtom '\r' = false by decide)
    simp [isSpace, hblank, htab, hline, hreturn]
  rw [readValue, skipSpace_cons hspace]
  split
  · rename_i heq
    exact absurd (List.cons.inj heq).1 (ne_of_beginsAtom hc (by decide))
  · rename_i heq
    exact absurd (List.cons.inj heq).1 (ne_of_beginsAtom hc (by decide))
  · rename_i heq
    exact absurd (List.cons.inj heq).1 (ne_of_beginsAtom hc (by decide))
  · rw [h]
    rfl

/-- A string is a value. -/
theorem readValue_text (ascii : Bool) (s : String) :
    readValue room (steps + 1) (stringText ascii s.toList ++ rest) = .ok (.str s, rest) := by
  have hread := readString_stringText ascii s.toList rest
  rw [stringText, List.append_assoc, List.singleton_append, List.cons_append, readValue,
    skipSpace_cons (by decide)]
  simp only [hread, Except.map, String.ofList_toList]

/-- An empty list needs room, too. -/
theorem readValue_noItems (hroom : 0 < room) :
    readValue room (steps + 1) ('[' :: ']' :: rest) = .ok (.list [], rest) := by
  rw [readValue, skipSpace_cons (by decide)]
  simp only [if_neg (Nat.ne_of_gt hroom), skipSpace_cons (show isSpace ']' = false by decide)]

/-- An empty map needs room, too. -/
theorem readValue_noMembers (hroom : 0 < room) :
    readValue room (steps + 1) ('\x7b' :: '\x7d' :: rest) = .ok (.map [], rest) := by
  rw [readValue, skipSpace_cons (by decide)]
  simp only [if_neg (Nat.ne_of_gt hroom), skipSpace_cons (show isSpace '\x7d' = false by decide)]

/-- A list that is not empty is read item by item, with less room. -/
theorem readValue_items (hroom : 0 < room) (h : ∀ after, skipSpace text ≠ ']' :: after) :
    readValue room (steps + 1) ('[' :: text) =
      (readItems (room - 1) steps text).map fun (items, after) => (.list items, after) := by
  rw [readValue, skipSpace_cons (by decide)]
  simp only [if_neg (Nat.ne_of_gt hroom)]

/-- A map that is not empty is read entry by entry, with less room. -/
theorem readValue_members (hroom : 0 < room) (opened : List Char) :
    readValue room (steps + 1) ('\x7b' :: '"' :: opened) =
      (readMembers (room - 1) steps ('"' :: opened)).map fun (pairs, after) =>
        (.map (Value.Entries.ofPairs pairs), after) := by
  rw [readValue, skipSpace_cons (by decide)]
  simp only [if_neg (Nat.ne_of_gt hroom), skipSpace_cons (show isSpace '"' = false by decide)]
  rfl

/-- A closing bracket begins no value. -/
theorem skipSpace_ne_of_readValue {r : Value × List Char} (h : readValue room steps text = .ok r)
    (after : List Char) : skipSpace text ≠ ']' :: after := by
  intro hbracket
  cases steps with
  | zero => simp [readValue] at h
  | succ steps =>
    rw [readValue, hbracket] at h
    obtain ⟨result, hresult, -⟩ := map_eq_ok_iff.mp h
    obtain ⟨c, more, heq, hc⟩ := exists_head_of_readAtom hresult
    rw [← (List.cons.inj heq).1] at hc
    exact absurd hc (by decide)

theorem skipSpace_ne_of_readItems {r : List Value × List Char}
    (h : readItems room steps text = .ok r) (after : List Char) :
    skipSpace text ≠ ']' :: after := by
  cases steps with
  | zero => simp [readItems] at h
  | succ steps =>
    cases hread : readValue room steps text with
    | ok result => exact skipSpace_ne_of_readValue hread after
    | error refusal => simp [readItems, hread] at h

theorem readItems_last {item : Value} (h : readValue room steps text = .ok (item, ']' :: rest)) :
    readItems room (steps + 1) text = .ok ([item], rest) := by
  rw [readItems, h]
  simp only [skipSpace_cons (show isSpace ']' = false by decide)]

theorem readItems_more {item : Value} {items : List Value} {more : List Char}
    (h : readValue room steps text = .ok (item, ',' :: more))
    (hmore : readItems room steps more = .ok (items, rest)) :
    readItems room (steps + 1) text = .ok (item :: items, rest) := by
  rw [readItems, h]
  simp only [skipSpace_cons (show isSpace ',' = false by decide), hmore, Except.map]

theorem readMembers_last {opened after : List Char} {key : Scalar} {value : Value}
    (hkey : readKey opened = .ok (key, after))
    (h : readValue room steps after = .ok (value, '\x7d' :: rest)) :
    readMembers room (steps + 1) ('"' :: opened) = .ok ([(key, value)], rest) := by
  rw [readMembers, skipSpace_cons (by decide)]
  simp only [hkey, h, skipSpace_cons (show isSpace '\x7d' = false by decide)]

theorem readMembers_more {opened after more : List Char} {key : Scalar} {value : Value}
    {entries : List (Scalar × Value)} (hkey : readKey opened = .ok (key, after))
    (h : readValue room steps after = .ok (value, ',' :: more))
    (hmore : readMembers room steps more = .ok (entries, rest)) :
    readMembers room (steps + 1) ('"' :: opened) = .ok ((key, value) :: entries, rest) := by
  rw [readMembers, skipSpace_cons (by decide)]
  simp only [hkey, h, skipSpace_cons (show isSpace ',' = false by decide), hmore, Except.map]

/-- A key with its separator is read back. -/
theorem readKey_append {style : Style} (hstyle : style.IsPlain) (ascii : Bool) (name : String)
    (rest : List Char) : ∃ k, readKey (name.toList.flatMap (stringChar ascii) ++ '"' ::
      (style.keySeparator.toList ++ rest)) = .ok (.str name, List.replicate k ' ' ++ rest) := by
  obtain ⟨k, hcolon⟩ := hstyle.keys
  refine ⟨k, ?_⟩
  rw [readKey, readString_stringText, hcolon]
  simp only [List.cons_append, skipSpace_cons (show isSpace ':' = false by decide),
    String.ofList_toList]

end Reader

/-- No value has an empty text. -/
theorem length_valueText_pos (style : Style) {v : Value} (h : IsDocument v) :
    0 < (valueText style v).length := by
  cases v with
  | scalar s =>
    rw [IsDocument] at h
    rw [valueText]
    by_cases htext : ∃ text, s = .str text
    · obtain ⟨text, rfl⟩ := htext
      simp [scalarText, stringText]
    · have hread := readAtom_scalarText style.ascii h (fun text heq => htext ⟨text, heq⟩)
        (show Delimited [] by intro c hc; simp at hc)
      obtain ⟨c, more, heq, -⟩ := exists_head_of_readAtom hread
      rw [List.append_nil] at heq
      rw [heq]
      simp
  | list items => simp [valueText]
  | map entries => simp [valueText]

section RoundTrip

variable {style : Style}

/-- What stands behind an item of a list that is not the last one. -/
theorem delimited_cons_comma (text : List Char) : Delimited (',' :: text) := by
  intro c hc
  simp only [List.head?_cons, Option.mem_def, Option.some.injEq] at hc
  exact .inl hc.symm

theorem delimited_cons_bracket (text : List Char) : Delimited (']' :: text) := by
  intro c hc
  simp only [List.head?_cons, Option.mem_def, Option.some.injEq] at hc
  exact .inr (.inl hc.symm)

theorem delimited_cons_brace (text : List Char) : Delimited ('\x7d' :: text) := by
  intro c hc
  simp only [List.head?_cons, Option.mem_def, Option.some.injEq] at hc
  exact .inr (.inr hc.symm)

/-- The text of an entry, character by character as far as its key goes. -/
theorem entryText_append (name : String) (text : List Char) :
    keyText style.ascii (.str name) ++ style.keySeparator.toList ++ text =
      '"' :: (name.toList.flatMap (stringChar style.ascii) ++
        '"' :: (style.keySeparator.toList ++ text)) := by
  simp [keyText, stringText]

theorem itemsText_cons (item next : Value) (items : List Value) :
    itemsText style (item :: next :: items) =
      valueText style item ++ style.itemSeparator.toList ++ itemsText style (next :: items) := rfl

theorem entriesText_cons (key : Scalar) (value : Value) (next : Scalar × Value)
    (entries : List (Scalar × Value)) :
    entriesText style ((key, value) :: next :: entries) =
      keyText style.ascii key ++ style.keySeparator.toList ++ valueText style value ++
        style.itemSeparator.toList ++ entriesText style (next :: entries) := rfl

mutual

/-- A value is read back from its text. -/
theorem readValue_valueText (hstyle : style.IsPlain) (v : Value) {room steps : Nat}
    {rest : List Char} (h : IsDocument v) (hroom : depth v ≤ room)
    (hsteps : 2 * (valueText style v).length ≤ steps + 1) (hrest : Delimited rest) :
    readValue room steps (valueText style v ++ rest) = .ok (v, rest) := by
  have hlength := length_valueText_pos style h
  obtain ⟨more, rfl⟩ : ∃ more, steps = more + 1 := ⟨steps - 1, by omega⟩
  match v with
  | .scalar s =>
    rw [IsDocument] at h
    rw [valueText]
    by_cases htext : ∃ text, s = .str text
    · obtain ⟨text, rfl⟩ := htext
      exact readValue_text style.ascii text
    · exact readValue_atom
        (readAtom_scalarText style.ascii h (fun text heq => htext ⟨text, heq⟩) hrest)
  | .list [] =>
    rw [depth] at hroom
    exact readValue_noItems (by omega)
  | .list (item :: items) =>
    rw [depth] at hroom
    rw [IsDocument] at h
    simp only [valueText, List.cons_append, List.length_cons, List.length_append,
      List.length_nil] at hsteps
    have hread := readItems_itemsText hstyle (item :: items) (by simp)
      (show depthOfItems (item :: items) ≤ room - 1 by omega)
      (show 2 * (itemsText style (item :: items)).length ≤ more by omega) h rest
    rw [valueText, List.append_assoc, List.singleton_append, List.cons_append,
      readValue_items (by omega) (skipSpace_ne_of_readItems hread), hread]
    rfl
  | .map [] =>
    rw [depth] at hroom
    exact readValue_noMembers (by omega)
  | .map ((key, value) :: entries) =>
    rw [depth] at hroom
    rw [IsDocument] at h
    simp only [valueText, List.cons_append, List.length_cons, List.length_append,
      List.length_nil] at hsteps
    have hread := readMembers_entriesText hstyle ((key, value) :: entries) (by simp)
      (show depthOfMembers ((key, value) :: entries) ≤ room - 1 by omega)
      (show 2 * (entriesText style ((key, value) :: entries)).length ≤ more by omega) h.2 rest
    have hpairs := Value.Entries.ofPairs_of_nodup
      (fun entry hentry => (areMembers_iff.mp h.2 entry hentry).1) h.1
    obtain ⟨opened, hopened⟩ : ∃ opened,
        entriesText style ((key, value) :: entries) ++ '\x7d' :: rest = '"' :: opened := by
      obtain ⟨name, rfl⟩ := h.2.1
      cases entries with
      | nil => exact ⟨_, by rw [entriesText, List.append_assoc, entryText_append]⟩
      | cons next entries =>
        exact ⟨_, by
          rw [entriesText_cons, List.append_assoc, List.append_assoc, List.append_assoc,
            entryText_append]⟩
    rw [hopened] at hread
    rw [valueText, List.append_assoc, List.singleton_append, List.cons_append, hopened,
      readValue_members (by omega), hread]
    exact congrArg (fun entries => Except.ok (Value.map entries, rest)) hpairs

/-- The items of a list are read back from their text. -/
theorem readItems_itemsText (hstyle : style.IsPlain) (items : List Value) {room steps : Nat}
    (hne : items ≠ []) (hroom : depthOfItems items ≤ room)
    (hsteps : 2 * (itemsText style items).length ≤ steps) (h : AreDocuments items)
    (rest : List Char) :
    readItems room steps (itemsText style items ++ ']' :: rest) = .ok (items, rest) := by
  match items with
  | [item] =>
    rw [itemsText] at hsteps ⊢
    rw [AreDocuments] at h
    rw [depthOfItems] at hroom
    have hlength := length_valueText_pos style h.1
    obtain ⟨more, rfl⟩ : ∃ more, steps = more + 1 := ⟨steps - 1, by omega⟩
    exact readItems_last (readValue_valueText hstyle item h.1 (by omega) (by omega)
      (delimited_cons_bracket rest))
  | item :: next :: items =>
    rw [itemsText_cons] at hsteps ⊢
    rw [AreDocuments] at h
    rw [depthOfItems] at hroom
    obtain ⟨k, hcomma⟩ := hstyle.items
    have hlength := length_valueText_pos style h.1
    simp only [List.length_append, hcomma, List.length_cons] at hsteps
    obtain ⟨more, rfl⟩ : ∃ more, steps = more + 1 := ⟨steps - 1, by omega⟩
    have hitem := readValue_valueText hstyle item h.1
      (show depth item ≤ room by omega) (show _ ≤ more + 1 by omega)
      (delimited_cons_comma
        (List.replicate k ' ' ++ (itemsText style (next :: items) ++ ']' :: rest)))
    have hrest := readItems_itemsText hstyle (next :: items) (by simp)
      (show depthOfItems (next :: items) ≤ room by omega) (show _ ≤ more by omega) h.2 rest
    rw [← readItems_skip room more k] at hrest
    rw [hcomma, List.append_assoc, List.append_assoc, List.cons_append]
    exact readItems_more hitem hrest

/-- The entries of a map are read back from their text. -/
theorem readMembers_entriesText (hstyle : style.IsPlain) (entries : List (Scalar × Value))
    {room steps : Nat} (hne : entries ≠ []) (hroom : depthOfMembers entries ≤ room)
    (hsteps : 2 * (entriesText style entries).length ≤ steps) (h : AreMembers entries)
    (rest : List Char) :
    readMembers room steps (entriesText style entries ++ '\x7d' :: rest) = .ok (entries, rest) := by
  match entries with
  | [(key, value)] =>
    rw [entriesText] at hsteps ⊢
    rw [AreMembers] at h
    rw [depthOfMembers] at hroom
    obtain ⟨⟨name, rfl⟩, hvalue, -⟩ := h
    have hlength := length_valueText_pos style hvalue
    simp only [List.length_append] at hsteps
    obtain ⟨more, rfl⟩ : ∃ more, steps = more + 1 := ⟨steps - 1, by omega⟩
    have hread := readValue_valueText hstyle value hvalue (show depth value ≤ room by omega)
      (show _ ≤ more + 1 by omega) (delimited_cons_brace rest)
    obtain ⟨k, hkey⟩ := readKey_append hstyle style.ascii name
      (valueText style value ++ '\x7d' :: rest)
    rw [List.append_assoc, entryText_append]
    rw [← readValue_skip room more k] at hread
    exact readMembers_last hkey hread
  | (key, value) :: next :: entries =>
    rw [entriesText_cons] at hsteps ⊢
    rw [AreMembers] at h
    rw [depthOfMembers] at hroom
    obtain ⟨⟨name, rfl⟩, hvalue, hmembers⟩ := h
    obtain ⟨j, hcomma⟩ := hstyle.items
    have hlength := length_valueText_pos style hvalue
    simp only [List.length_append, hcomma, List.length_cons] at hsteps
    obtain ⟨more, rfl⟩ : ∃ more, steps = more + 1 := ⟨steps - 1, by omega⟩
    obtain ⟨following, hfollowing⟩ : ∃ following, following =
        ',' :: (List.replicate j ' ' ++ (entriesText style (next :: entries) ++ '\x7d' :: rest)) :=
      ⟨_, rfl⟩
    have hread := readValue_valueText hstyle value hvalue (show depth value ≤ room by omega)
      (show _ ≤ more + 1 by omega) (hfollowing ▸ delimited_cons_comma _)
    have hrest := readMembers_entriesText hstyle (next :: entries) (by simp)
      (show depthOfMembers (next :: entries) ≤ room by omega) (show _ ≤ more by omega) hmembers rest
    obtain ⟨k, hkey⟩ := readKey_append hstyle style.ascii name (valueText style value ++ following)
    rw [List.append_assoc, List.append_assoc, List.append_assoc, entryText_append, hcomma,
      List.cons_append, ← hfollowing]
    rw [← readMembers_skip room more j] at hrest
    rw [← readValue_skip room more k, hfollowing] at hread
    exact readMembers_more (hfollowing ▸ hkey) hread hrest

end

/-- A value is read back from a text that holds nothing else. -/
theorem readValue_whole (hstyle : style.IsPlain) {v : Value} (h : IsDocument v) {room steps : Nat}
    (hroom : depth v ≤ room) (hsteps : 2 * (valueText style v).length ≤ steps) :
    readValue room steps (valueText style v) = .ok (v, []) := by
  have hread := readValue_valueText hstyle v h hroom (show _ ≤ steps + 1 by omega)
    (show Delimited [] by intro c hc; simp at hc)
  rwa [List.append_nil] at hread

/-- A document that is not too deep is read back from its text. -/
theorem parse_render (hstyle : style.IsPlain) {v : Value} (h : IsDocument v)
    (hdepth : depth v ≤ depthLimit) : parse (render style v) = .ok v := by
  unfold parse render
  rw [String.toList_ofList, readValue_whole hstyle h hdepth (by omega)]
  rfl

/-- Two documents with the same text are the same, however deep they are. -/
theorem render_injective (hstyle : style.IsPlain) {v w : Value} (hv : IsDocument v)
    (hw : IsDocument w) (h : render style v = render style w) : v = w := by
  have htext : valueText style v = valueText style w := String.ofList_injective h
  have hreadV := readValue_whole hstyle hv (Nat.le_max_left (depth v) (depth w)) (Nat.le_refl _)
  have hreadW := readValue_whole hstyle hw (Nat.le_max_right (depth v) (depth w)) (Nat.le_refl _)
  rw [htext, hreadW] at hreadV
  exact (congrArg Prod.fst (Except.ok.inj hreadV)).symm

end RoundTrip

end StyleTokens.Json
