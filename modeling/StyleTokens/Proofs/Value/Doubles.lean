import StyleTokens.Preset.Declaration
import StyleTokens.Proofs.Number.ReadBack
import StyleTokens.Proofs.Outcome
import StyleTokens.Token.Entry

/-!
# Data with doubles alone

Some readers of data know no numbers but doubles, and take a whole number for its nearest double. It
makes no difference to them: a whole number is written as its nearest double is, so tokens have the
same sides, and declarations the same values.
-/

namespace StyleTokens

/-- A number as doubles alone can hold it: the nearest double, if there is one. -/
def Number.asDouble (n : Number) : Number :=
  match n.toBinary64? with
  | some x => .float x
  | none => n

/-- A scalar as doubles alone can hold it. -/
def Scalar.withDoubles : Scalar → Scalar
  | .num n => .num n.asDouble
  | s => s

mutual

/-- A value with its numbers as doubles alone can hold them, at any depth. -/
def Value.withDoubles : Value → Value
  | .scalar s => .scalar s.withDoubles
  | .list items => .list (Value.itemsWithDoubles items)
  | .map entries => .map (Value.entriesWithDoubles entries)

/-- Items with their numbers as doubles alone can hold them. -/
def Value.itemsWithDoubles : List Value → List Value
  | [] => []
  | item :: rest => item.withDoubles :: Value.itemsWithDoubles rest

/-- Entries with the numbers of their values as doubles alone can hold them. -/
def Value.entriesWithDoubles : List (Scalar × Value) → List (Scalar × Value)
  | [] => []
  | (key, value) :: rest => (key, value.withDoubles) :: Value.entriesWithDoubles rest

end

namespace Number

/-- A whole number that is not past every double has a nearest one. -/
theorem toBinary64?_int {n : Int} (h : InDoubleRange n) :
    (int n).toBinary64? = some (Binary64.ofInt n) := by
  have hnearest : (int n).toBinary64? =
      if InDoubleRange n then some (Binary64.ofInt n) else none := rfl
  rw [hnearest, if_pos h]

/-- A number is written as its nearest double is. -/
theorem styleText_asDouble (n : Number) : n.asDouble.styleText = n.styleText := by
  unfold asDouble
  cases hnearest : n.toBinary64? with
  | none => rfl
  | some x =>
    cases n with
    | float y =>
      cases hnearest
      rfl
    | int k =>
      refine (styleText_eq_float hnearest ?_).symm
      unfold toBinary64? at hnearest
      dsimp only at hnearest
      split_ifs at hnearest with hfinite
      exact Option.some.inj hnearest ▸ hfinite

/-- A whole number that is not past every double has a text. -/
theorem exists_styleText_int {n : Int} (h : InDoubleRange n) :
    ∃ text, (int n).styleText = .ok text :=
  exists_ok_iff.mpr fun hfault => styleText_fault_iff.mp hfault h

end Number

/-- A whole number that is not past every double becomes its nearest double. -/
theorem withDoubles_int {n : Int} (h : InDoubleRange n) :
    (Value.int n).withDoubles = .float (Binary64.ofInt n) := by
  rw [Value.withDoubles, Scalar.withDoubles, Number.asDouble, Number.toBinary64?_int h]

/-! ### Tokens -/

/-- A side value is read alike. -/
theorem ofValue_withDoubles (value : Value) :
    SideReading.ofValue value.withDoubles = SideReading.ofValue value := by
  cases value with
  | list items => rfl
  | map entries => rfl
  | scalar s =>
    cases s with
    | num n => exact congrArg (Except.map _) n.styleText_asDouble
    | _ => rfl

/-- What stands at a key stands there with doubles. -/
theorem find?_entriesWithDoubles (entries : Value.Entries) (key : Scalar) :
    Value.Entries.find? (Value.entriesWithDoubles entries) key =
      (entries.find? key).map Value.withDoubles := by
  induction entries with
  | nil => rfl
  | cons entry rest ih =>
    obtain ⟨other, value⟩ := entry
    unfold Value.Entries.find? at ih ⊢
    rw [Value.entriesWithDoubles, List.find?_cons, List.find?_cons]
    dsimp only
    cases other.sameKey key with
    | true => rfl
    | false => exact ih

/-- The value at a key, null when there is none, stands there with doubles. -/
theorem get_entriesWithDoubles (entries : Value.Entries) (name : String) :
    Value.Entries.get (Value.entriesWithDoubles entries) name =
      (entries.get name).withDoubles := by
  unfold Value.Entries.get Value.Entries.get?
  rw [find?_entriesWithDoubles]
  cases entries.find? (.str name) <;> rfl

theorem text?_withDoubles (value : Value) : value.withDoubles.text? = value.text? := by
  cases value with
  | list items => rfl
  | map entries => rfl
  | scalar s => cases s <;> rfl

/-- The fields of a shape are read alike. -/
theorem readFields_entriesWithDoubles (shape : EntryShape) (entries : Value.Entries) :
    shape.readFields (Value.entriesWithDoubles entries) = shape.readFields entries := by
  unfold EntryShape.readFields
  simp only [get_entriesWithDoubles, ofValue_withDoubles]

/-- A map is read with the same sides. Only the report on a tag that is no word shows whether it was
a whole number. -/
theorem sides_ofEntries_withDoubles (entries : Value.Entries) :
    (EntryReading.ofEntries (Value.entriesWithDoubles entries)).map EntryReading.sides =
      (EntryReading.ofEntries entries).map EntryReading.sides := by
  unfold EntryReading.ofEntries Value.Entries.get?
  rw [find?_entriesWithDoubles]
  cases Value.Entries.find? entries (.str "type") with
  | none => rfl
  | some tag =>
    simp only [Option.map_some, text?_withDoubles]
    cases tag.text?.bind EntryShape.ofName? with
    | none => rfl
    | some shape =>
      dsimp only
      rw [EntryReading.ofShape, EntryReading.ofShape, readFields_entriesWithDoubles]

/-- Data has the same sides with doubles. -/
theorem normalize_withDoubles (raw : Value) : normalize raw.withDoubles = normalize raw := by
  unfold normalize
  match raw with
  | .map [] => rfl
  | .map ((key, value) :: rest) => exact sides_ofEntries_withDoubles ((key, value) :: rest)
  | .list items => rfl
  | .scalar s =>
    have hread := ofValue_withDoubles (.scalar s)
    rw [Value.withDoubles] at hread ⊢
    simp only [EntryReading.ofValue, hread]

/-! ### Declarations -/

/-- A declaration has the same value with doubles. -/
theorem declarationValue_withDoubles (property : String) (value : Value) :
    declarationValue property value.withDoubles = declarationValue property value := by
  have hraw : rawText? value.withDoubles = rawText? value := by
    cases value with
    | list items => rfl
    | map entries => rfl
    | scalar s =>
      cases s with
      | num n => exact congrArg (Except.map _) n.styleText_asDouble
      | _ => rfl
  rw [declarationValue, declarationValue, hraw]

/-- A whole number that is not past every double is written as its nearest double is. Therefore data
of which doubles alone are known has the same sides, and declarations have the same values. -/
theorem shown_alike_withDoubles :
    (∀ n : Int, InDoubleRange n →
      (Value.int n).withDoubles = .float (Binary64.ofInt n) ∧
        ∃ text, (Number.int n).styleText = .ok text ∧
          (Number.float (Binary64.ofInt n)).styleText = .ok text) ∧
    (∀ raw : Value, normalize raw.withDoubles = normalize raw) ∧
    ∀ (property : String) (value : Value),
      declarationValue property value.withDoubles = declarationValue property value := by
  refine ⟨fun n hn => ⟨withDoubles_int hn, ?_⟩, normalize_withDoubles, declarationValue_withDoubles⟩
  obtain ⟨text, htext⟩ := Number.exists_styleText_int hn
  exact ⟨text, htext, Number.styleText_eq_float (Number.toBinary64?_int hn) hn ▸ htext⟩

/-- A whole number past `2 ^ 53` that is no double, by itself and in data. -/
theorem shown_alike_withDoubles_pastSafe :
    InDoubleRange 9007199254740993 ∧
      ((Value.int 9007199254740993).withDoubles = .float (Binary64.ofInt 9007199254740993) ∧
        ∃ text, (Number.int 9007199254740993).styleText = .ok text ∧
          (Number.float (Binary64.ofInt 9007199254740993)).styleText = .ok text) ∧
      normalize (Value.map [(.str "type", .str "split"), (.str "x", .int 9007199254740993),
          (.str "y", .int 3)]).withDoubles =
        normalize (.map [(.str "type", .str "split"), (.str "x", .int 9007199254740993),
          (.str "y", .int 3)]) ∧
      declarationValue "width" (Value.int 9007199254740993).withDoubles =
        declarationValue "width" (.int 9007199254740993) := by
  have hrange : InDoubleRange 9007199254740993 := by decide +kernel
  obtain ⟨hnumbers, hsides, hvalues⟩ := shown_alike_withDoubles
  exact ⟨hrange, hnumbers _ hrange, hsides _, hvalues _ _⟩

end StyleTokens
