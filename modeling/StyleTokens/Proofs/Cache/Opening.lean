import StyleTokens.Proofs.Cache.Envelope
import StyleTokens.Proofs.Cache.Sheets

/-!
# Opening whatever the store holds

Most texts that are no envelopes are found out and count as none. Some are not: those whose lists
and maps stand in each other too deeply, and envelopes with a number that no double can hold or that
is no whole number. They are told by their fields.
-/

namespace StyleTokens.Envelope

/-- A number has no nearest double exactly if it is a whole number past every one. -/
theorem toBinary64?_eq_none_iff {number : Number} :
    number.toBinary64? = none ↔ ∃ n, number = .int n ∧ ¬InDoubleRange n := by
  cases number with
  | float x => simp [Number.toBinary64?]
  | int n =>
    simp only [Number.int.injEq, exists_eq_left', Number.toBinary64?, InDoubleRange]
    generalize Binary64.ofInt n = x
    cases x.isFinite <;> simp

/-- A number that is no text fails to be a double exactly if it has no nearest one. -/
theorem doubleOf?_number_fault_iff {s : Scalar} {number : Number} (hstr : ∀ text, s ≠ .str text)
    (hnumber : s.number? = some number) :
    (∃ fault, doubleOf? (.scalar s) = .error fault) ↔ number.toBinary64? = none := by
  have hdouble : doubleOf? (.scalar s) =
      number.toBinary64?.elim (.error .integerRange) fun x => .ok (some x) := by
    unfold doubleOf?
    split
    · exact absurd (Value.scalar.inj ‹_›) (hstr _)
    · rename_i heq
      obtain rfl := Value.scalar.inj heq
      cases hdouble : number.toBinary64? <;> simp [hnumber, hdouble]
    · rename_i hscalar
      exact absurd rfl (hscalar s)
  rw [hdouble]
  cases number.toBinary64? <;> simp

/-- A number that may be written as a text fails to be a double only as a whole number past every
one. -/
theorem doubleOf?_fault_iff {value : Value} :
    (∃ fault, doubleOf? value = .error fault) ↔ ∃ n, value = .int n ∧ ¬InDoubleRange n := by
  cases value with
  | list items => simp [doubleOf?]
  | map entries => simp [doubleOf?]
  | scalar s =>
    cases s with
    | null => simp [doubleOf?, Scalar.number?]
    | str text => simp [doubleOf?]
    | calendar time => simp [doubleOf?, Scalar.number?]
    | bool b =>
      rw [doubleOf?_number_fault_iff (by simp) rfl, toBinary64?_eq_none_iff]
      have hrange : InDoubleRange (if b then 1 else 0) :=
        inDoubleRange_of_lt (by cases b <;> decide)
      generalize (if b then 1 else 0 : Int) = n at hrange
      simp [hrange]
    | num number =>
      rw [doubleOf?_number_fault_iff (by simp) rfl, toBinary64?_eq_none_iff]
      simp

/-- A number that may be written as a text fails to be a lifetime only if it is infinite. -/
theorem secondsOf?_fault_iff {value : Value} :
    (∃ fault, secondsOf? value = .error fault) ↔
      ∃ negative, value = .float (.infinite negative) := by
  unfold secondsOf?
  cases value with
  | list items => split <;> simp
  | map entries => split <;> simp
  | scalar s =>
    cases s with
    | null => simp [Value.truthy, Scalar.truthy]
    | str text => split <;> simp
    | calendar time => split <;> simp
    | bool b => split <;> simp
    | num n =>
      cases n with
      | int n => split <;> simp
      | float x =>
        cases x with
        | nan => split <;> simp
        | infinite negative => simp [Value.truthy, Scalar.truthy, Number.isZero, Binary64.isZero]
        | finite negative units h => split <;> simp

/-- The lifetime of an envelope cannot be added to its time exactly if it is past every double. -/
theorem expiry_fault_iff {envelope : Envelope} :
    (∃ fault, envelope.expiry = .error fault) ↔ ¬InDoubleRange envelope.ttl := by
  rw [expiry_eq]
  split_ifs with hrange <;> simp [hrange]

/-- The text of an envelope is told, unless that is stale, if its lifetime is in range. -/
theorem textAt_of_inDoubleRange {envelope : Envelope} {text : String}
    (hvalue : envelope.value = .str text) (hrange : InDoubleRange envelope.ttl) (now : Binary64) :
    envelope.textAt now = .ok (if envelope.isStale now then none else some text) := by
  unfold textAt isStale
  rw [Value.text?_eq_some_iff.mpr hvalue, expiry_eq, if_pos hrange]
  cases deadline envelope.created envelope.ttl <;> rfl

/-- An envelope that was written is opened, unless it is stale. -/
theorem opened_write (text : String) (created now : Binary64) {ttl : Int}
    (hrange : InDoubleRange ttl) :
    opened now (write text created (.num (.int ttl))) =
      .ok (if isStale ⟨.str text, created, ttl⟩ now then none else some text) := by
  have hvalue : (Envelope.mk (.str text) created ttl).value = .str text := rfl
  rw [opened, read_write text created hrange]
  exact textAt_of_inDoubleRange hvalue hrange now

/-- The text of an envelope fails to be told exactly if there is one and its lifetime is past every
double. -/
theorem textAt_fault_iff {now : Binary64} {envelope : Envelope} :
    (∃ fault, envelope.textAt now = .error fault) ↔
      (∃ text, envelope.value = .str text) ∧ ¬InDoubleRange envelope.ttl := by
  rw [← expiry_fault_iff]
  unfold textAt
  cases htext : envelope.value.text? with
  | none => simp [← Value.text?_eq_some_iff, htext]
  | some text =>
    have hsome : ∃ other, envelope.value = .str other := ⟨text, Value.text?_eq_some_iff.mp htext⟩
    simp only [hsome, true_and]
    cases envelope.expiry <;> simp [Except.map]

/-- A stored text that is opened is that of an envelope that is not stale. -/
theorem exists_of_opened {now : Binary64} {stored css : String}
    (h : opened now stored = .ok (some css)) :
    ∃ envelope, read stored = .ok (some envelope) ∧ envelope.value = .str css ∧
      envelope.isStale now = false := by
  obtain ⟨envelope?, hread, htext⟩ := bind_eq_ok_iff.mp h
  cases envelope? with
  | none => cases htext
  | some envelope =>
    dsimp only at htext
    refine ⟨envelope, hread, ?_⟩
    cases hvalue : envelope.value.text? with
    | none =>
      rw [textAt, hvalue] at htext
      cases htext
    | some text =>
      have hstr := Value.text?_eq_some_iff.mp hvalue
      have hrange : InDoubleRange envelope.ttl := by
        by_contra hrange
        obtain ⟨fault, hfault⟩ := textAt_fault_iff.mpr ⟨⟨text, hstr⟩, hrange⟩
        rw [htext] at hfault
        cases hfault
      rw [textAt_of_inDoubleRange hstr hrange] at htext
      cases hstale : envelope.isStale now with
      | true =>
        rw [hstale] at htext
        cases htext
      | false =>
        rw [hstale] at htext
        obtain rfl : text = css := Option.some.inj (Except.ok.inj htext)
        exact ⟨hstr, rfl⟩

/-- What keeps a text of the store from being opened, and from counting as none. -/
inductive Breaks (stored : String) : Prop
  /-- Lists or maps stand in each other too deeply. -/
  | tooDeep (isMap : Bool) (hparse : Json.parse stored = .error (.unconvertible (.tooDeep isMap)))
  /-- The time is a whole number past every double. -/
  | time (entries : Value.Entries) (n : Int) (hparse : Json.parse stored = .ok (.map entries))
    (hvalue : entries.has "value" = true) (htime : entries.get? "created_at" = some (.int n))
    (hrange : ¬InDoubleRange n)
  /-- The lifetime is infinite. -/
  | endless (entries : Value.Entries) (time : Value) (created : Binary64) (negative : Bool)
    (hparse : Json.parse stored = .ok (.map entries)) (hvalue : entries.has "value" = true)
    (htime : entries.get? "created_at" = some time) (hcreated : doubleOf? time = .ok (some created))
    (httl : entries.get "ttl" = .float (.infinite negative))
  /-- The lifetime of a text is a whole number past every double. -/
  | lifetime (envelope : Envelope) (text : String) (hread : read stored = .ok (some envelope))
    (hvalue : envelope.value = .str text) (hrange : ¬InDoubleRange envelope.ttl)

/-- The fields of an envelope cannot be read exactly if its time or its lifetime cannot. -/
theorem ofEntries_fault_iff {entries : Value.Entries} :
    (∃ fault, ofEntries entries = .error fault) ↔
      entries.has "value" = true ∧
        ((∃ n, entries.get? "created_at" = some (.int n) ∧ ¬InDoubleRange n) ∨
          ∃ time created negative, entries.get? "created_at" = some time ∧
            doubleOf? time = .ok (some created) ∧
              entries.get "ttl" = .float (.infinite negative)) := by
  unfold ofEntries Value.Entries.has
  cases hvalue : entries.get? "value" with
  | none => simp [pure, Except.pure]
  | some value =>
    cases htime : entries.get? "created_at" with
    | none => simp [pure, Except.pure]
    | some time =>
      simp only [Option.isSome_some, true_and, Option.some.injEq]
      cases hcreated : doubleOf? time with
      | error fault =>
        have hfault := doubleOf?_fault_iff.mp ⟨fault, hcreated⟩
        simp only [bind, Except.bind, Except.error.injEq, exists_eq', true_iff]
        exact .inl hfault
      | ok created? =>
        have hnot : ¬∃ n, time = .int n ∧ ¬InDoubleRange n := by
          rw [← doubleOf?_fault_iff, hcreated]
          simp
        cases created? with
        | none => simp [bind, Except.bind, pure, Except.pure, hnot, hcreated]
        | some created =>
          have hiff : (∃ other created negative, time = other ∧ doubleOf? other = .ok (some created) ∧
              entries.get "ttl" = .float (.infinite negative)) ↔
              ∃ fault, secondsOf? (entries.get "ttl") = .error fault := by
            simp [secondsOf?_fault_iff, hcreated]
          rw [hiff]
          cases hseconds : secondsOf? (entries.get "ttl") with
          | error fault => simp [bind, Except.bind]
          | ok seconds? =>
            cases seconds? <;> simp [bind, Except.bind, pure, Except.pure, hnot]

/-- A stored text is no document, or a document, or its lists or maps stand in each other too
deeply. -/
theorem storedDocument?_eq (stored : String) :
    (∃ document, Json.parse stored = .ok document ∧ storedDocument? stored = .ok (some document)) ∨
      (∃ isMap, Json.parse stored = .error (.unconvertible (.tooDeep isMap)) ∧
        storedDocument? stored = .error (.unconvertible (.tooDeep isMap))) ∨
      (∃ refusal, Json.parse stored = .error refusal ∧
        (∀ isMap, refusal ≠ .unconvertible (.tooDeep isMap)) ∧
          storedDocument? stored = .ok none) := by
  unfold storedDocument?
  cases hparse : Json.parse stored with
  | ok document => exact .inl ⟨document, rfl, rfl⟩
  | error refusal =>
    by_cases hdeep : ∃ isMap, refusal = .unconvertible (.tooDeep isMap)
    · obtain ⟨isMap, rfl⟩ := hdeep
      exact .inr (.inl ⟨isMap, rfl, rfl⟩)
    · refine .inr (.inr ⟨refusal, rfl, fun isMap h => hdeep ⟨isMap, h⟩, ?_⟩)
      split
      · rename_i heq
        cases heq
      · rename_i isMap heq
        exact absurd ⟨isMap, Except.error.inj heq⟩ hdeep
      · rfl

/-- A stored text cannot be read exactly if it is too deep or a map whose fields cannot be read. -/
theorem read_fault_iff {stored : String} :
    (∃ fault, read stored = .error fault) ↔
      (∃ isMap, Json.parse stored = .error (.unconvertible (.tooDeep isMap))) ∨
        ∃ entries, Json.parse stored = .ok (.map entries) ∧
          ∃ fault, ofEntries entries = .error fault := by
  unfold read
  obtain ⟨document, hparse, hstored⟩ | ⟨isMap, hparse, hstored⟩ |
    ⟨refusal, hparse, hdeep, hstored⟩ := storedDocument?_eq stored
  · rw [hparse, hstored]
    cases document <;> simp [bind, Except.bind, pure, Except.pure]
  · rw [hparse, hstored]
    simp [bind, Except.bind]
  · rw [hparse, hstored]
    simpa [bind, Except.bind, pure, Except.pure] using hdeep

/-- A stored text cannot be opened exactly if it breaks, and this does not depend on the time. -/
theorem opened_fault_iff {now : Binary64} {stored : String} :
    (∃ fault, opened now stored = .error fault) ↔ Breaks stored := by
  have hopened : (∃ fault, opened now stored = .error fault) ↔
      (∃ fault, read stored = .error fault) ∨
        ∃ envelope, read stored = .ok (some envelope) ∧
          ∃ fault, envelope.textAt now = .error fault := by
    unfold opened
    cases read stored with
    | error fault => simp [bind, Except.bind]
    | ok envelope? => cases envelope? <;> simp [bind, Except.bind, pure, Except.pure]
  rw [hopened, read_fault_iff]
  constructor
  · rintro ((⟨isMap, hparse⟩ | ⟨entries, hparse, hfields⟩) | ⟨envelope, hread, htext⟩)
    · exact .tooDeep isMap hparse
    · obtain ⟨hvalue, ⟨n, htime, hrange⟩ | ⟨time, created, negative, htime, hcreated, httl⟩⟩ :=
        ofEntries_fault_iff.mp hfields
      · exact .time entries n hparse hvalue htime hrange
      · exact .endless entries time created negative hparse hvalue htime hcreated httl
    · obtain ⟨⟨text, hvalue⟩, hrange⟩ := textAt_fault_iff.mp htext
      exact .lifetime envelope text hread hvalue hrange
  · intro hbreaks
    cases hbreaks with
    | tooDeep isMap hparse => exact .inl (.inl ⟨isMap, hparse⟩)
    | time entries n hparse hvalue htime hrange =>
      exact .inl (.inr ⟨entries, hparse, ofEntries_fault_iff.mpr ⟨hvalue, .inl ⟨n, htime, hrange⟩⟩⟩)
    | endless entries time created negative hparse hvalue htime hcreated httl =>
      exact .inl (.inr ⟨entries, hparse, ofEntries_fault_iff.mpr
        ⟨hvalue, .inr ⟨time, created, negative, htime, hcreated, httl⟩⟩⟩)
    | lifetime envelope text hread hvalue hrange =>
      exact .inr ⟨envelope, hread, textAt_fault_iff.mpr ⟨⟨text, hvalue⟩, hrange⟩⟩

/-- What was found cannot be opened exactly if it breaks. -/
theorem openedIfAny_fault_iff {now : Binary64} {found : Option String} :
    (∃ fault, openedIfAny now found = .error fault) ↔
      ∃ stored, found = some stored ∧ Breaks stored := by
  cases found with
  | none => simp [openedIfAny]
  | some stored => simp [openedIfAny, opened_fault_iff]

theorem exists_of_openedIfAny {now : Binary64} {found : Option String} {css : String}
    (h : openedIfAny now found = .ok (some css)) :
    ∃ stored, found = some stored ∧ opened now stored = .ok (some css) := by
  cases found with
  | none => cases h
  | some stored => exact ⟨stored, rfl, h⟩

section Reachable

/-- An outcome is not that the backend is out of reach. -/
def IsReached {α : Type} (outcome : Except Fault α) : Prop :=
  ∀ report, outcome ≠ .error (.cacheUnavailable report)

theorem IsReached.ok {α : Type} (a : α) : IsReached (.ok a) := nofun

theorem IsReached.bind {α β : Type} {first : Except Fault α} {rest : α → Except Fault β}
    (h : IsReached first) (hrest : ∀ a, IsReached (rest a)) : IsReached (first >>= rest) := by
  cases first with
  | ok a => exact hrest a
  | error fault => exact fun report heq => h report (by cases heq; rfl)

theorem isReached_doubleOf? (value : Value) : IsReached (doubleOf? value) := by
  intro report
  unfold doubleOf?
  repeat' split
  all_goals simp

theorem isReached_secondsOf? (value : Value) : IsReached (secondsOf? value) := by
  intro report
  unfold secondsOf?
  repeat' split
  all_goals simp

theorem isReached_expiry (envelope : Envelope) : IsReached envelope.expiry := by
  intro report
  unfold expiry
  repeat' split
  all_goals simp

theorem isReached_textAt (now : Binary64) (envelope : Envelope) :
    IsReached (envelope.textAt now) := by
  unfold textAt
  cases envelope.value.text? with
  | none => exact .ok none
  | some text =>
    cases hexpiry : envelope.expiry with
    | ok time => exact .ok _
    | error fault =>
      intro report heq
      exact isReached_expiry envelope report (hexpiry.trans (by cases heq; rfl))

theorem isReached_ofEntries (entries : Value.Entries) : IsReached (ofEntries entries) := by
  unfold ofEntries
  split
  · refine (isReached_doubleOf? _).bind fun created? => ?_
    cases created? with
    | none => exact .ok none
    | some created =>
      refine (isReached_secondsOf? _).bind fun seconds? => ?_
      cases seconds? <;> exact .ok _
  · exact .ok none

/-- Opening a stored text never fails as if the backend were out of reach. -/
theorem isReached_opened (now : Binary64) (stored : String) : IsReached (opened now stored) := by
  have hread : IsReached (read stored) := by
    unfold read
    obtain ⟨document, -, hstored⟩ | ⟨isMap, -, hstored⟩ | ⟨-, -, -, hstored⟩ :=
      storedDocument?_eq stored
    · rw [hstored]
      cases document with
      | map entries => exact isReached_ofEntries entries
      | scalar s => exact .ok none
      | list items => exact .ok none
    · rw [hstored]
      exact fun report heq => by cases heq
    · rw [hstored]
      exact .ok none
  refine hread.bind fun envelope? => ?_
  cases envelope? with
  | none => exact .ok none
  | some envelope => exact isReached_textAt now envelope

theorem isReached_openedIfAny (now : Binary64) (found : Option String) :
    IsReached (openedIfAny now found) := by
  cases found with
  | none => exact .ok none
  | some stored => exact isReached_opened now stored

end Reachable

end StyleTokens.Envelope
