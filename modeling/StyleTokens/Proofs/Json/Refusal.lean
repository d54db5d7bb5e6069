import Mathlib.Data.List.Infix
import Mathlib.Tactic.SplitIfs
import StyleTokens.Json.Parser
import StyleTokens.Proofs.Outcome

/-!
# Why a document cannot be converted

A reader leaves an end of its text for the next one. A text that keeps to the grammar as far as it
has been read is refused only for a whole number with too many digits, or for lists and maps that
stand in each other too deeply, and either can be seen from the text.
-/

namespace StyleTokens.Json

/-- A text has more digits in a row than a whole number may have. -/
def HasLongRun (text : List Char) : Prop :=
  ∃ run, run <:+: text ∧ run.all Char.isDigit = true ∧ digitLimit < run.length

/-- How many brackets and braces open in a text. -/
def openings (text : List Char) : Nat := text.countP fun c => c == '[' || c == '\x7b'

variable {α β : Type} {room : Nat} {text rest : List Char}

/-- A reader of a part of a text leaves an end of it, and only a long run of digits or too many
brackets keep it from converting what it reads. -/
def Accounts (room : Nat) (text : List Char) : Step α → Prop
  | .ok (_, after) => after <:+ text
  | .error .malformed => True
  | .error (.unconvertible _) => HasLongRun text ∨ room < openings text

/-- A long run in an end of a text is one in the text. -/
theorem HasLongRun.mono (h : HasLongRun rest) (hrest : rest <:+ text) : HasLongRun text := by
  obtain ⟨run, hrun, hdigits, hlong⟩ := h
  exact ⟨run, hrun.trans hrest.isInfix, hdigits, hlong⟩

/-- A bracket or a brace is one more. -/
theorem openings_cons {c : Char} (hc : c = '[' ∨ c = '\x7b') (rest : List Char) :
    openings (c :: rest) = openings rest + 1 := by
  rcases hc with rfl | rfl <;> exact List.countP_cons_of_pos rfl

/-- An end of a text has no more brackets. -/
theorem openings_le (hrest : rest <:+ text) : openings rest ≤ openings text :=
  hrest.sublist.countP_le

/-- There is a bracket in a text if one is found. -/
theorem openings_pos {c : Char} (hc : c = '[' ∨ c = '\x7b') (hrest : c :: rest <:+ text) :
    0 < openings text := by
  have hle := openings_le hrest
  rw [openings_cons hc] at hle
  omega

namespace Accounts

variable {outcome : Step α}

/-- What is read from an end of a text is read from the text. -/
theorem mono (h : Accounts room rest outcome) (hrest : rest <:+ text) :
    Accounts room text outcome := by
  cases outcome with
  | ok result => exact List.IsSuffix.trans h hrest
  | error refusal =>
    cases refusal with
    | malformed => trivial
    | unconvertible problem =>
      rcases h with hrun | hroom
      · exact .inl (hrun.mono hrest)
      · exact .inr (Nat.lt_of_lt_of_le hroom (openings_le hrest))

/-- A meaning may be changed. -/
theorem map (h : Accounts room text outcome) (f : α → β) :
    Accounts room text (outcome.map fun (a, after) => (f a, after)) := by
  cases outcome with
  | ok result => exact h
  | error refusal => cases refusal <;> exact h

/-- A refusal is passed on by the reader of a larger part. -/
theorem pass {refusal : Refusal} (h : Accounts room text (.error refusal : Step α)) :
    Accounts room text (.error refusal : Step β) := by
  cases refusal <;> exact h

/-- A reader that goes on behind a bracket has less room. -/
theorem opened {c : Char} (h : Accounts (room - 1) rest outcome) (hc : c = '[' ∨ c = '\x7b')
    (hrest : c :: rest <:+ text) : Accounts room text outcome := by
  refine mono ?_ hrest
  have hcount := openings_cons hc rest
  cases outcome with
  | ok result => exact List.IsSuffix.trans h (List.suffix_cons c rest)
  | error refusal =>
    cases refusal with
    | malformed => trivial
    | unconvertible problem =>
      rcases h with hrun | hless
      · exact .inl (hrun.mono (List.suffix_cons c rest))
      · right
        omega

end Accounts

/-! ### Parts of a text -/

/-- Space is skipped up to an end of the text. -/
theorem skipSpace_suffix (text : List Char) : skipSpace text <:+ text :=
  List.dropWhile_suffix _

/-- What stands behind a character that is found after space is an end of the text. -/
theorem suffix_of_skipSpace {c : Char} (h : skipSpace text = c :: rest) : rest <:+ text :=
  (List.suffix_cons c rest).trans (h ▸ skipSpace_suffix text)

/-- A code unit leaves an end of the text. -/
theorem suffix_of_readUnit {unit : Nat} (h : readUnit text = some (unit, rest)) :
    rest <:+ text := by
  unfold readUnit at h
  split at h
  · rename_i a b c d after
    obtain ⟨unit', -, heq⟩ := Option.map_eq_some_iff.mp h
    cases heq
    exact ⟨[a, b, c, d], rfl⟩
  · cases h

/-- An escape leaves an end of the text. -/
theorem suffix_of_readEscape {meaning : Char} (h : readEscape text = some (meaning, rest)) :
    rest <:+ text := by
  unfold readEscape at h
  split at h
  · cases h
  · rename_i after
    obtain ⟨⟨unit, other⟩, hunit, h⟩ := Option.bind_eq_some_iff.mp h
    have hother := (suffix_of_readUnit hunit).trans (List.suffix_cons 'u' after)
    dsimp only at h
    split_ifs at h
    · split at h
      · rename_i more
        obtain ⟨⟨low, final⟩, hlow, h⟩ := Option.bind_eq_some_iff.mp h
        have hmore : more <:+ '\\' :: 'u' :: more := ⟨['\\', 'u'], rfl⟩
        dsimp only at h
        split_ifs at h
        · obtain ⟨-, rfl⟩ := Prod.mk.inj (Option.some.inj h)
          exact (suffix_of_readUnit hlow).trans (hmore.trans hother)
        · obtain ⟨-, rfl⟩ := Prod.mk.inj (Option.some.inj h)
          exact hother
      · obtain ⟨-, rfl⟩ := Prod.mk.inj (Option.some.inj h)
        exact hother
    · obtain ⟨-, rfl⟩ := Prod.mk.inj (Option.some.inj h)
      exact hother
  · rename_i c after _
    obtain ⟨meaning', -, heq⟩ := Option.map_eq_some_iff.mp h
    cases heq
    exact List.suffix_cons c _

/-- A string is read without conversions. -/
theorem accounts_readString (room steps : Nat) (text : List Char) :
    Accounts room text (readString steps text) := by
  induction steps generalizing text with
  | zero => trivial
  | succ steps ih =>
    cases text with
    | nil => trivial
    | cons c rest =>
      unfold readString
      split_ifs
      · exact List.suffix_cons c rest
      · cases hescape : readEscape rest with
        | none => trivial
        | some read =>
          obtain ⟨meaning, after⟩ := read
          have hafter := (suffix_of_readEscape hescape).trans (List.suffix_cons c rest)
          exact ((ih after).mono hafter).map _
      · trivial
      · exact ((ih rest).mono (List.suffix_cons c rest)).map _

/-- Digits are the start of a text, and digits are all that is read. -/
theorem spanDigits_eq {digits : List Char} (h : spanDigits text = (digits, rest)) :
    text = digits ++ rest ∧ digits.all Char.isDigit = true := by
  rw [spanDigits, List.span_eq_takeWhile_dropWhile] at h
  cases h
  exact ⟨List.takeWhile_append_dropWhile.symm, by simp⟩

/-- The whole part of a numeral is the start of a text, and digits are all that is read. -/
theorem readWhole_eq {digits : List Char} (h : readWhole text = some (digits, rest)) :
    text = digits ++ rest ∧ digits.all Char.isDigit = true := by
  unfold readWhole at h
  split at h
  · cases h
    exact ⟨rfl, rfl⟩
  · split at h
    · cases h
    · rename_i hspan
      cases h
      exact spanDigits_eq hspan

/-- A fraction leaves an end of the text. -/
theorem suffix_of_readFraction {digits : List Char} (h : readFraction text = some (digits, rest)) :
    rest <:+ text := by
  unfold readFraction at h
  split at h
  · rename_i after
    split at h
    · cases h
    · rename_i hspan
      cases h
      obtain ⟨rfl, -⟩ := spanDigits_eq hspan
      exact (List.suffix_append _ _).trans (List.suffix_cons '.' _)
  · cases h

/-- An exponent leaves an end of the text. -/
theorem suffix_of_readExponent {exponent : Int} (h : readExponent text = some (exponent, rest)) :
    rest <:+ text := by
  unfold readExponent at h
  split at h
  · rename_i c after
    split_ifs at h
    split at h
    rename_i negative unsigned hsign
    have hunsigned : unsigned <:+ after := by
      split at hsign <;> cases hsign
      · exact List.suffix_cons '-' _
      · exact List.suffix_cons '+' _
      · exact List.suffix_refl _
    split at h
    · cases h
    · rename_i hspan
      cases h
      obtain ⟨rfl, -⟩ := spanDigits_eq hspan
      exact ((List.suffix_append _ _).trans hunsigned).trans (List.suffix_cons c _)
  · cases h

/-- Only digits keep a numeral from being converted. -/
theorem accounts_readUnsigned (room : Nat) (negative : Bool) (text : List Char) :
    Accounts room text (readUnsigned negative text) := by
  unfold readUnsigned
  cases hwhole : readWhole text with
  | none => trivial
  | some read =>
    obtain ⟨whole, after⟩ := read
    obtain ⟨rfl, hdigits⟩ := readWhole_eq hwhole
    have hafter : after <:+ whole ++ after := List.suffix_append _ _
    have hfraction : ((readFraction after).getD ([], after)).2 <:+ after := by
      cases hread : readFraction after with
      | none => exact List.suffix_refl _
      | some read => exact suffix_of_readFraction hread
    have hexponent : ∀ text : List Char, ((readExponent text).getD (0, text)).2 <:+ text := by
      intro text
      cases hread : readExponent text with
      | none => exact List.suffix_refl _
      | some read => exact suffix_of_readExponent hread
    dsimp only
    split
    · split
      · rename_i hlong
        exact .inl ⟨whole, (List.prefix_append _ _).isInfix, hdigits, hlong⟩
      · exact (hexponent _).trans (hfraction.trans hafter)
    · exact (hexponent _).trans (hfraction.trans hafter)

/-- A word leaves an end of the text. -/
theorem suffix_of_readLiteral {meaning : Scalar} (h : readLiteral text = some (meaning, rest)) :
    rest <:+ text := by
  obtain ⟨⟨word, meaning'⟩, -, h⟩ := List.exists_of_findSome?_eq_some h
  dsimp only at h
  split_ifs at h
  cases h
  exact List.drop_suffix _ _

/-- Only digits keep a number or a word from being converted. -/
theorem accounts_readAtom (room : Nat) (text : List Char) :
    Accounts room text (readAtom text) := by
  unfold readAtom
  cases hliteral : readLiteral text with
  | some read => exact suffix_of_readLiteral hliteral
  | none =>
    have hread := accounts_readUnsigned room
    dsimp only
    split
    · exact ((hread true _).mono (List.suffix_cons '-' _)).map _
    · exact (hread false text).map _

/-- A key is read without conversions. -/
theorem accounts_readKey (room : Nat) (text : List Char) :
    Accounts room text (readKey text) := by
  unfold readKey
  have hstring := accounts_readString room text.length.succ text
  cases hread : readString text.length.succ text with
  | error refusal =>
    rw [hread] at hstring
    exact hstring.pass
  | ok read =>
    rw [hread] at hstring
    dsimp only
    split
    · rename_i rest hcolon
      exact (suffix_of_skipSpace hcolon).trans hstring
    · trivial

/-! ### Values -/

/-- What the readers of values, of items and of members return after so many steps is accounted
for. -/
def StepsAccount (steps : Nat) : Prop :=
  ∀ room text, Accounts room text (readValue room steps text) ∧
    Accounts room text (readItems room steps text) ∧
    Accounts room text (readMembers room steps text)

/-- A value is accounted for if its parts are. -/
theorem StepsAccount.value {steps : Nat} (h : StepsAccount steps) (room : Nat)
    (text : List Char) : Accounts room text (readValue room (steps + 1) text) := by
  unfold readValue
  split
  · rename_i rest hquote
    have hstring := (accounts_readString room rest.length.succ rest).mono
      (suffix_of_skipSpace hquote)
    exact hstring.map fun s => Value.str (String.ofList s)
  · rename_i rest hbracket
    have hrest : '[' :: rest <:+ text := hbracket ▸ skipSpace_suffix text
    split_ifs with hroom
    · exact .inr (hroom ▸ openings_pos (.inl rfl) hrest)
    · split
      · rename_i after hclose
        exact (suffix_of_skipSpace hclose).trans ((List.suffix_cons _ _).trans hrest)
      · have hitems := (h (room - 1) rest).2.1.map Value.list
        exact hitems.opened (.inl rfl) hrest
  · rename_i rest hbrace
    have hrest : '\x7b' :: rest <:+ text := hbrace ▸ skipSpace_suffix text
    split_ifs with hroom
    · exact .inr (hroom ▸ openings_pos (.inr rfl) hrest)
    · split
      · rename_i after hclose
        exact (suffix_of_skipSpace hclose).trans ((List.suffix_cons _ _).trans hrest)
      · have hmembers := (h (room - 1) rest).2.2.map fun pairs =>
          Value.map (Value.Entries.ofPairs pairs)
        exact hmembers.opened (.inr rfl) hrest
  · exact ((accounts_readAtom room _).mono (skipSpace_suffix text)).map _

/-- Items are accounted for if their parts are. -/
theorem StepsAccount.items {steps : Nat} (h : StepsAccount steps) (room : Nat)
    (text : List Char) : Accounts room text (readItems room (steps + 1) text) := by
  unfold readItems
  have hvalue := (h room text).1
  cases hread : readValue room steps text with
  | error refusal =>
    rw [hread] at hvalue
    exact hvalue.pass
  | ok read =>
    obtain ⟨item, after⟩ := read
    have hafter : after <:+ text := by rwa [hread] at hvalue
    dsimp only
    split
    · rename_i rest hcomma
      have hrest := (suffix_of_skipSpace hcomma).trans hafter
      exact ((h room rest).2.1.mono hrest).map _
    · rename_i final hclose
      exact (suffix_of_skipSpace hclose).trans hafter
    · trivial

/-- Members are accounted for if their parts are. -/
theorem StepsAccount.members {steps : Nat} (h : StepsAccount steps) (room : Nat)
    (text : List Char) : Accounts room text (readMembers room (steps + 1) text) := by
  unfold readMembers
  split
  · rename_i opened hquote
    have hopened : opened <:+ text := suffix_of_skipSpace hquote
    have hkey := (accounts_readKey room opened).mono hopened
    cases hread : readKey opened with
    | error refusal =>
      rw [hread] at hkey
      exact hkey.pass
    | ok read =>
      obtain ⟨key, rest⟩ := read
      have hrest : rest <:+ text := by rwa [hread] at hkey
      have hvalue := (h room rest).1.mono hrest
      dsimp only
      cases hread : readValue room steps rest with
      | error refusal =>
        rw [hread] at hvalue
        exact hvalue.pass
      | ok read =>
        obtain ⟨value, after⟩ := read
        have hafter : after <:+ text := by rwa [hread] at hvalue
        dsimp only
        split
        · rename_i more hcomma
          have hmore := (suffix_of_skipSpace hcomma).trans hafter
          exact ((h room more).2.2.mono hmore).map _
        · rename_i final hclose
          exact (suffix_of_skipSpace hclose).trans hafter
        · trivial
  · trivial

/-- What the readers return is accounted for, however many steps there are. -/
theorem stepsAccount (steps : Nat) : StepsAccount steps := by
  induction steps with
  | zero => exact fun room text => ⟨trivial, trivial, trivial⟩
  | succ steps ih => exact fun room text => ⟨ih.value room text, ih.items room text,
      ih.members room text⟩

/-- A document that cannot be converted has more digits in a row than a whole number may have, or
more brackets than may stand in each other. -/
theorem long_or_deep_of_unconvertible {text : String} {problem : ConversionProblem}
    (h : parse text = .error (.unconvertible problem)) :
    HasLongRun text.toList ∨ depthLimit < openings text.toList := by
  have hvalue := (stepsAccount (2 * text.toList.length + 2) depthLimit text.toList).1
  unfold parse at h
  split at h
  · rename_i refusal hread
    cases h
    rwa [hread] at hvalue
  · split_ifs at h
    cases h

end StyleTokens.Json
