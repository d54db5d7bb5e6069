import StyleTokens.ClassName.Responsive
import StyleTokens.Proofs.Number.StyleText
import StyleTokens.Proofs.Outcome
import StyleTokens.Token.Entry

/-!
# What token data says

An entry that is a map speaks of the sides that its type names, each with a value of its own. Values
that may stand at a side are nothing, texts and numbers. Reading fails only where a number has no
text.
-/

namespace StyleTokens

namespace Value

/-- Data that may stand at a side. -/
inductive FitsSide : Value → Prop where
  /-- Null stands for no value. -/
  | null : FitsSide .null
  /-- False stands for no value. -/
  | false : FitsSide (.bool false)
  /-- A text; the empty one stands for no value. -/
  | text (s : String) : FitsSide (.str s)
  /-- A number. -/
  | number (n : Number) : FitsSide (.num n)

/-- The text of data at a side, if it stands for a value. -/
def sideText? : Value → Option String
  | .scalar (.str s) => if s = "" then none else some s
  | .scalar (.num n) => n.styleText.toOption.map String.ofList
  | _ => none

/-- Data that is an endless number. -/
def IsEndless (value : Value) : Prop := ∃ n, value = .num n ∧ n.IsEndless

end Value

namespace SideReading

/-- Reading a side value fails exactly for endless numbers. -/
theorem ofValue_fault_iff {value : Value} :
    (∃ fault, SideReading.ofValue value = .error fault) ↔ value.IsEndless := by
  unfold Value.IsEndless
  cases value with
  | list items => simp [SideReading.ofValue]
  | map entries => simp [SideReading.ofValue]
  | scalar s =>
    cases s with
    | num n =>
      simp only [SideReading.ofValue, map_eq_error_iff, Number.styleText_fault_iff,
        Value.scalar.injEq, Scalar.num.injEq, exists_eq_left']
    | bool b => cases b <;> simp [SideReading.ofValue]
    | null => simp [SideReading.ofValue]
    | str text => simp [SideReading.ofValue]
    | calendar time => simp [SideReading.ofValue]

/-- What may stand at a side is read as its text, or as nothing. -/
theorem ofValue_of_fits {value : Value} {reading : SideReading} (hfits : value.FitsSide)
    (h : SideReading.ofValue value = .ok reading) :
    reading.value? = value.sideText? ∧ ∀ reason, reading ≠ .refused reason := by
  cases hfits with
  | null => cases h; exact ⟨rfl, by simp⟩
  | false => cases h; exact ⟨rfl, by simp⟩
  | text s =>
    cases h
    by_cases hempty : s = "" <;> simp [hempty, value?, Value.sideText?]
  | number n =>
    obtain ⟨text, htext, rfl⟩ := map_eq_ok_iff.mp h
    refine ⟨?_, by simp⟩
    rw [Value.sideText?, htext]
    rfl

/-- What may not stand at a side is refused. -/
theorem ofValue_of_not_fits {value : Value} (hfits : ¬value.FitsSide) :
    ∃ reason, SideReading.ofValue value = .ok (.refused reason) := by
  cases value with
  | list items => exact ⟨_, rfl⟩
  | map entries => exact ⟨_, rfl⟩
  | scalar s =>
    cases s with
    | null => exact absurd .null hfits
    | bool b =>
      cases b with
      | false => exact absurd .false hfits
      | true => exact ⟨_, rfl⟩
    | num n => exact absurd (.number n) hfits
    | str text => exact absurd (.text text) hfits
    | calendar time => exact ⟨_, rfl⟩

end SideReading

/-- The sides that a map of a known type speaks of, each with its value. -/
inductive SpeaksOf (entries : Value.Entries) : List (Side × Value) → Prop where
  /-- One value for all sides. -/
  | all (htype : entries.get? "type" = some (.str "all")) :
    SpeaksOf entries [(.all, entries.get "value")]
  /-- A value for each axis. -/
  | split (htype : entries.get? "type" = some (.str "split")) :
    SpeaksOf entries [(.x, entries.get "x"), (.y, entries.get "y")]
  /-- A value for each side. -/
  | sides (htype : entries.get? "type" = some (.str "sides")) :
    SpeaksOf entries [(.top, entries.get "top"), (.right, entries.get "right"),
      (.bottom, entries.get "bottom"), (.left, entries.get "left")]

/-- The values of a shape's fields, each with its side. -/
def EntryShape.parts (shape : EntryShape) (entries : Value.Entries) : List (Side × Value) :=
  shape.fields.map fun (field, side) => (side, entries.get field)

/-- A map speaks of the fields of the shape that its type names. -/
theorem speaksOf_iff {entries : Value.Entries} {parts : List (Side × Value)} :
    SpeaksOf entries parts ↔ ∃ shape : EntryShape,
      entries.get? "type" = some (.str shape.name) ∧ parts = shape.parts entries := by
  constructor
  · rintro (htype | htype | htype)
    · exact ⟨.all, htype, rfl⟩
    · exact ⟨.split, htype, rfl⟩
    · exact ⟨.sides, htype, rfl⟩
  · rintro ⟨shape, htype, rfl⟩
    cases shape with
    | all => exact .all htype
    | split => exact .split htype
    | sides => exact .sides htype

/-- A name is the name of one shape. -/
theorem EntryShape.ofName?_eq_some_iff {name : String} {shape : EntryShape} :
    ofName? name = some shape ↔ name = shape.name := by
  constructor
  · intro h
    unfold ofName? at h
    have hname := List.find?_some h
    exact (beq_iff_eq.mp hname).symm
  · rintro rfl
    cases shape <;> rfl

/-- A map of a known type speaks of the fields of that shape alone. -/
theorem speaksOf_iff_of_type {entries : Value.Entries} {parts : List (Side × Value)}
    {shape : EntryShape} (htype : entries.get? "type" = some (.str shape.name)) :
    SpeaksOf entries parts ↔ parts = shape.parts entries := by
  refine ⟨fun h => ?_, fun h => speaksOf_iff.mpr ⟨shape, htype, h⟩⟩
  obtain ⟨other, hother, rfl⟩ := speaksOf_iff.mp h
  have hname : other.name = shape.name := by simpa [hother] using htype
  have hsame := EntryShape.ofName?_eq_some_iff.mpr hname
  rw [EntryShape.ofName?_eq_some_iff.mpr rfl] at hsame
  rw [Option.some.inj hsame]

/-- Data with an endless number where a side value is read. -/
def Value.HoldsEndless : Value → Prop
  | .map entries => ∃ parts, SpeaksOf entries parts ∧ ∃ part ∈ parts, part.2.IsEndless
  | value => value.IsEndless

namespace EntryShape

/-- Reading the fields of a shape fails exactly if one of them is an endless number. -/
theorem readFields_fault_iff {shape : EntryShape} {entries : Value.Entries} :
    (∃ fault, shape.readFields entries = .error fault) ↔
      ∃ part ∈ shape.parts entries, part.2.IsEndless := by
  unfold readFields parts
  simp only [mapM_fault_iff, map_eq_error_iff, SideReading.ofValue_fault_iff, List.mem_map]
  constructor
  · rintro ⟨field, hfield, hendless⟩
    exact ⟨_, ⟨field, hfield, rfl⟩, hendless⟩
  · rintro ⟨-, ⟨field, hfield, rfl⟩, hendless⟩
    exact ⟨field, hfield, hendless⟩

/-- The fields that are read are those of the shape, in order. -/
theorem forall₂_of_readFields {shape : EntryShape} {entries : Value.Entries}
    {readings : List (String × SideReading)} (h : shape.readFields entries = .ok readings) :
    List.Forall₂ (fun part reading => SideReading.ofValue part.2 = .ok reading.2)
      (shape.parts entries) readings := by
  unfold readFields at h
  unfold parts
  rw [List.forall₂_map_left_iff]
  refine (mapM_eq_ok_iff.mp h).imp fun field reading hreading => ?_
  obtain ⟨side, hside, rfl⟩ := map_eq_ok_iff.mp hreading
  exact hside

end EntryShape

/-- No field is refused exactly if every value may stand at a side. -/
theorem refusedFields_eq_nil_iff {parts : List (Side × Value)}
    {readings : List (String × SideReading)}
    (h : List.Forall₂ (fun part reading => SideReading.ofValue part.2 = .ok reading.2)
      parts readings) :
    refusedFields readings = [] ↔ ∀ part ∈ parts, part.2.FitsSide := by
  induction h with
  | nil => simp [refusedFields]
  | @cons part reading parts readings hreading _ ih =>
    obtain ⟨field, side⟩ := reading
    dsimp only at hreading
    rw [List.forall_mem_cons, ← ih]
    by_cases hfits : part.2.FitsSide
    · have hgood := (SideReading.ofValue_of_fits hfits hreading).2
      cases side with
      | refused reason => exact absurd rfl (hgood reason)
      | absent => simp [refusedFields, hfits]
      | present text => simp [refusedFields, hfits]
    · obtain ⟨reason, hrefused⟩ := SideReading.ofValue_of_not_fits hfits
      obtain rfl : SideReading.refused reason = side :=
        Except.ok.inj (hrefused.symm.trans hreading)
      simp [refusedFields, hfits]

namespace EntryReading

/-- A map of a known type is read as its shape. -/
theorem ofEntries_of_type {entries : Value.Entries} {shape : EntryShape}
    (htype : entries.get? "type" = some (.str shape.name)) :
    ofEntries entries = ofShape shape entries := by
  have hshape : (Value.str shape.name).text?.bind EntryShape.ofName? = some shape :=
    EntryShape.ofName?_eq_some_iff.mpr rfl
  simp only [ofEntries, htype, hshape]

/-- A map of no known type is malformed. -/
theorem ofEntries_of_no_type {entries : Value.Entries}
    (h : ∀ shape : EntryShape, entries.get? "type" ≠ some (.str shape.name)) :
    ∃ reason, ofEntries entries = .ok (.malformed reason) := by
  unfold ofEntries
  cases htag : entries.get? "type" with
  | none => exact ⟨_, rfl⟩
  | some tag =>
    have hnone : tag.text?.bind EntryShape.ofName? = none := by
      rw [Option.eq_none_iff_forall_not_mem]
      intro shape hshape
      obtain ⟨name, hname, hfound⟩ := Option.bind_eq_some_iff.mp hshape
      rw [EntryShape.ofName?_eq_some_iff] at hfound
      have htext : tag = .str name := by
        cases tag with
        | scalar s => cases s <;> simp_all [Value.text?]
        | list items => cases hname
        | map entries => cases hname
      exact h shape (by rw [htag, htext, hfound])
    simp only [hnone]
    exact ⟨_, rfl⟩

/-- Reading a map fails exactly if it speaks of a side with an endless number. -/
theorem ofEntries_fault_iff {entries : Value.Entries} :
    (∃ fault, ofEntries entries = .error fault) ↔
      ∃ parts, SpeaksOf entries parts ∧ ∃ part ∈ parts, part.2.IsEndless := by
  by_cases hknown : ∃ shape : EntryShape, entries.get? "type" = some (.str shape.name)
  · obtain ⟨shape, htype⟩ := hknown
    rw [ofEntries_of_type htype]
    simp only [ofShape, map_eq_error_iff, EntryShape.readFields_fault_iff,
      speaksOf_iff_of_type htype, exists_eq_left]
  · rw [not_exists] at hknown
    obtain ⟨reason, hreason⟩ := ofEntries_of_no_type hknown
    refine iff_of_false (by simp [hreason]) ?_
    rintro ⟨parts, hspeaks, -⟩
    obtain ⟨shape, htype, -⟩ := speaksOf_iff.mp hspeaks
    exact hknown shape htype

/-- Reading data fails exactly if it holds an endless number where a side value is read. -/
theorem ofValue_fault_iff {raw : Value} :
    (∃ fault, ofValue raw = .error fault) ↔ raw.HoldsEndless := by
  cases raw with
  | scalar s =>
    simp only [ofValue, map_eq_error_iff, SideReading.ofValue_fault_iff, Value.HoldsEndless]
  | list items =>
    simp only [ofValue, map_eq_error_iff, SideReading.ofValue_fault_iff, Value.HoldsEndless]
  | map entries =>
    rw [Value.HoldsEndless, ← ofEntries_fault_iff]
    cases entries with
    | nil =>
      obtain ⟨reason, hreason⟩ :=
        @ofEntries_of_no_type [] (by simp [Value.Entries.get?, Value.Entries.find?])
      simp [ofValue, hreason]
    | cons entry entries => rfl

end EntryReading

/-- What data says of sides is read unless it holds an endless number. -/
theorem normalize_fault_iff {raw : Value} :
    (∃ fault, normalize raw = .error fault) ↔ raw.HoldsEndless := by
  unfold normalize
  simp only [map_eq_error_iff, EntryReading.ofValue_fault_iff]

end StyleTokens
