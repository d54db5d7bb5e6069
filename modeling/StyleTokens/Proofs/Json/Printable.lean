import StyleTokens.Proofs.Json.RoundTrip
import StyleTokens.Proofs.Number.Numeral

/-!
# Documents in printable characters

With separators and strings in ASCII alone, nothing in the text of a document is other than a
printable character: a control character and one beyond ASCII are written as escapes, and numbers
have digits and a few marks. So the text of a document, whatever strings it has, is a single line.
-/

namespace StyleTokens

namespace Text

/-- A printable character of ASCII: from the space to the tilde. -/
def IsAsciiPrintable (c : Char) : Prop := 0x20 ≤ c.toNat ∧ c.toNat ≤ 0x7E

instance (c : Char) : Decidable (IsAsciiPrintable c) :=
  inferInstanceAs (Decidable (0x20 ≤ c.toNat ∧ c.toNat ≤ 0x7E))

/-- A text of printable characters of ASCII. -/
def AllPrintable (text : List Char) : Prop := ∀ c ∈ text, IsAsciiPrintable c

instance (text : List Char) : Decidable (AllPrintable text) :=
  List.decidableBAll IsAsciiPrintable text

@[simp] theorem allPrintable_nil : AllPrintable [] := by simp [AllPrintable]

@[simp] theorem allPrintable_cons {c : Char} {text : List Char} :
    AllPrintable (c :: text) ↔ IsAsciiPrintable c ∧ AllPrintable text := by simp [AllPrintable]

@[simp] theorem allPrintable_append {left right : List Char} :
    AllPrintable (left ++ right) ↔ AllPrintable left ∧ AllPrintable right := by
  simp [AllPrintable, or_imp, forall_and]

theorem AllPrintable.mono {part text : List Char} (h : AllPrintable text) (hpart : part ⊆ text) :
    AllPrintable part := fun c hc => h c (hpart hc)

theorem isAsciiPrintable_of_isDigit {c : Char} (h : c.isDigit = true) : IsAsciiPrintable c := by
  obtain ⟨hlow, hhigh⟩ : 0x30 ≤ c.val ∧ c.val ≤ 0x39 := by simpa [Char.isDigit] using h
  have hfirst : 0x30 ≤ c.toNat := hlow
  have hlast : c.toNat ≤ 0x39 := hhigh
  exact ⟨by omega, by omega⟩

theorem allPrintable_hexDigits (width n : Nat) : AllPrintable (hexDigits width n) := by
  intro c hc
  obtain ⟨digit, hdigit, rfl⟩ := exists_of_mem_hexDigits hc
  interval_cases digit <;> decide

end Text

open Text

/-! ### Numbers -/

theorem allPrintable_digits (n : Nat) : AllPrintable (digits n) := fun _ hc =>
  isAsciiPrintable_of_isDigit (isDigit_of_mem_digits hc)

theorem allPrintable_intDigits (n : Int) : AllPrintable (intDigits n) := by
  cases n with
  | ofNat n => exact allPrintable_digits n
  | negSucc n => exact allPrintable_cons.mpr ⟨by decide, allPrintable_digits (n + 1)⟩

theorem allPrintable_zeros (k : Nat) : AllPrintable (List.replicate k '0') := by
  intro c hc
  rw [List.eq_of_mem_replicate hc]
  decide

theorem Decimal.allPrintable_plain (d : Decimal) : AllPrintable d.plain := by
  obtain ⟨n, hsign, hunsigned, -, -⟩ := d.exists_numeral_unsigned false
  intro c hc
  have htext : n.text = d.plain := by simp [Numeral.text, hsign, hunsigned]
  rw [← htext] at hc
  rcases n.mem_text hc with hdigit | rfl | rfl
  · exact isAsciiPrintable_of_isDigit hdigit
  · decide
  · decide

theorem Decimal.allPrintable_shortestText (d : Decimal) : AllPrintable d.shortestText := by
  have hdigits := allPrintable_digits d.coefficient
  have hfirst := hdigits.mono (List.take_subset 1 _)
  have hrest := hdigits.mono (List.drop_subset 1 _)
  unfold shortestText
  dsimp only
  split_ifs
  · exact d.allPrintable_plain
  · exact allPrintable_append.mpr ⟨d.allPrintable_plain, by decide⟩
  all_goals
    simp only [allPrintable_append, allPrintable_cons, hfirst, hrest, allPrintable_zeros,
      allPrintable_digits, allPrintable_nil, and_true, true_and]
    decide

/-- The text of a number in a document. -/
theorem Number.allPrintable_text (n : Number) : AllPrintable (n.text .json) := by
  cases n with
  | int n => exact allPrintable_intDigits n
  | float x =>
    cases x with
    | nan => decide
    | infinite negative => cases negative <;> decide
    | finite negative units bound =>
      have hsign : AllPrintable (if negative then ['-'] else []) := by cases negative <;> decide
      refine allPrintable_append.mpr ⟨hsign, ?_⟩
      split_ifs
      · decide
      · exact Decimal.allPrintable_shortestText _

namespace Json

/-! ### Strings -/

theorem allPrintable_escapedUnit (unit : Nat) : AllPrintable (escapedUnit unit) := by
  have hdigits := allPrintable_hexDigits 4 unit
  exact allPrintable_cons.mpr ⟨by decide, allPrintable_cons.mpr ⟨by decide, hdigits⟩⟩

/-- Whatever a character is, it is written in printable characters. -/
theorem allPrintable_stringChar (c : Char) : AllPrintable (stringChar true c) := by
  unfold stringChar
  split_ifs with hquote hback hline hreturn htab hfeed hbackspace hcontrol hascii
  iterate 7 · decide
  · exact allPrintable_escapedUnit c.toNat
  · unfold escapedChar
    split_ifs
    · exact allPrintable_escapedUnit _
    · exact allPrintable_append.mpr ⟨allPrintable_escapedUnit _, allPrintable_escapedUnit _⟩
  · rw [Bool.true_and, decide_eq_true_eq] at hascii
    exact allPrintable_cons.mpr ⟨⟨by omega, by omega⟩, allPrintable_nil⟩

theorem allPrintable_stringText (text : List Char) : AllPrintable (stringText true text) := by
  have hchars : AllPrintable (text.flatMap (stringChar true)) := by
    intro c hc
    obtain ⟨d, -, hd⟩ := List.mem_flatMap.mp hc
    exact allPrintable_stringChar d c hd
  exact allPrintable_append.mpr ⟨allPrintable_cons.mpr ⟨by decide, hchars⟩, by decide⟩

theorem allPrintable_scalarText (s : Scalar) : AllPrintable (scalarText true s) := by
  cases s with
  | null => decide
  | bool b => cases b <;> decide
  | num n => exact n.allPrintable_text
  | str text => exact allPrintable_stringText _
  | calendar time => exact allPrintable_stringText _

theorem allPrintable_keyText (s : Scalar) : AllPrintable (keyText true s) := by
  cases s <;> exact allPrintable_stringText _

/-! ### Documents -/

/-- A key and what stands between it and its value. -/
theorem allPrintable_key (key : Scalar) :
    AllPrintable (keyText true key ++ Style.ascii7.keySeparator.toList) :=
  allPrintable_append.mpr ⟨allPrintable_keyText key, by decide⟩

theorem allPrintable_itemSeparator : AllPrintable Style.ascii7.itemSeparator.toList := by decide

mutual

/-- A value is written in printable characters. -/
theorem allPrintable_valueText (v : Value) : AllPrintable (valueText .ascii7 v) := by
  match v with
  | .scalar s => exact allPrintable_scalarText s
  | .list items =>
    have hitems := allPrintable_itemsText items
    exact allPrintable_append.mpr ⟨allPrintable_cons.mpr ⟨by decide, hitems⟩, by decide⟩
  | .map entries =>
    have hentries := allPrintable_entriesText entries
    exact allPrintable_append.mpr ⟨allPrintable_cons.mpr ⟨by decide, hentries⟩, by decide⟩

/-- Items are written in printable characters, and so is what separates them. -/
theorem allPrintable_itemsText (items : List Value) : AllPrintable (itemsText .ascii7 items) := by
  match items with
  | [] => exact allPrintable_nil
  | [item] => exact allPrintable_valueText item
  | item :: next :: rest =>
    have hitem := allPrintable_valueText item
    have hrest := allPrintable_itemsText (next :: rest)
    rw [itemsText_cons, allPrintable_append, allPrintable_append]
    exact ⟨⟨hitem, allPrintable_itemSeparator⟩, hrest⟩

/-- Entries are written in printable characters, and so is what separates them. -/
theorem allPrintable_entriesText (entries : List (Scalar × Value)) :
    AllPrintable (entriesText .ascii7 entries) := by
  match entries with
  | [] => exact allPrintable_nil
  | [(key, value)] =>
    have hvalue := allPrintable_valueText value
    rw [entriesText, allPrintable_append]
    exact ⟨allPrintable_key key, hvalue⟩
  | (key, value) :: next :: rest =>
    have hvalue := allPrintable_valueText value
    have hrest := allPrintable_entriesText (next :: rest)
    rw [entriesText_cons, allPrintable_append, allPrintable_append, allPrintable_append]
    exact ⟨⟨⟨allPrintable_key key, hvalue⟩, allPrintable_itemSeparator⟩, hrest⟩

end

end Json

end StyleTokens
