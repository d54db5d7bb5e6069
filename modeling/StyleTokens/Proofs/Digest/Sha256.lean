import StyleTokens.Digest.Sha256
import StyleTokens.Proofs.Text.Hex
import StyleTokens.Proofs.Text.Utf8

/-!
# Digests

A digest in hexadecimal is always sixty-four digits. It is told from lists alone: the words of a
schedule come one by one from the sixteen before them, and every round takes the next one. In this
form the digest of a given text can be found in a proof.
-/

namespace StyleTokens.Sha256

/-! ### The form of a digest -/

@[simp] theorem length_toList_ofText (text : String) : (ofText text).toList.length = 64 := by
  simp [ofText, hexDigest, digest, State.words]

/-- A digest holds hexadecimal digits only. -/
theorem exists_of_mem_ofText {text : String} {c : Char} (h : c ∈ (ofText text).toList) :
    ∃ digit, digit < 16 ∧ c = Text.hexDigit digit := by
  rw [ofText, hexDigest, String.toList_ofList] at h
  obtain ⟨word, -, hc⟩ := List.mem_flatMap.mp h
  exact Text.exists_of_mem_hexDigits hc

/-- A digest holds no character that is no hexadecimal digit. -/
theorem not_mem_ofText {c : Char} (h : ∀ digit < 16, c ≠ Text.hexDigit digit) (text : String) :
    c ∉ (ofText text).toList := by
  intro hc
  obtain ⟨digit, hdigit, heq⟩ := exists_of_mem_ofText hc
  exact h digit hdigit heq

/-- A digest holds no colon. -/
theorem colon_not_mem_ofText (text : String) : ':' ∉ (ofText text).toList :=
  not_mem_ofText (by decide) text

/-- A digest has as many bytes as digits. -/
theorem utf8ByteSize_ofText (text : String) : (ofText text).utf8ByteSize = 64 := by
  rw [← String.ofList_toList (s := ofText text), Text.utf8ByteSize_ofList fun c hc => ?_,
    length_toList_ofText]
  obtain ⟨digit, hdigit, rfl⟩ := exists_of_mem_ofText hc
  exact Text.utf8Size_hexDigit hdigit

/-! ### Finding a digest step by step -/

/-- The word that follows sixteen others, of which four matter. -/
def nextWord (window : List UInt32) : UInt32 :=
  let x := window.getD 1 0
  let y := window.getD 14 0
  window.getD 0 0 + (rotate x 7 ^^^ rotate x 18 ^^^ (x >>> 3)) + window.getD 9 0 +
    (rotate y 17 ^^^ rotate y 19 ^^^ (y >>> 10))

/-- Sixteen words continued by so many others. -/
def continued : Nat → List UInt32 → List UInt32
  | 0, window => window
  | count + 1, window =>
    window.headD 0 :: continued count (window.tail ++ [nextWord window])

/-- The state after a round for each of the words. -/
def rounds (s : State) (words : List UInt32) : State :=
  (roundConstants.toList.zip words).foldl (fun t pair => round t pair.1 pair.2) s

/-- The state after so many blocks of sixteen words. -/
def absorbBlocks : Nat → State → List UInt32 → State
  | 0, s, _ => s
  | count + 1, s, words =>
    absorbBlocks count (s.add (rounds s (continued 48 (words.take 16)))) (words.drop 16)

theorem length_continued (count : Nat) {window : List UInt32} (h : window.length = 16) :
    (continued count window).length = count + 16 := by
  induction count generalizing window with
  | zero => simp [continued, h]
  | succ count ih =>
    have hlength : (window.tail ++ [nextWord window]).length = 16 := by simp [h]
    rw [continued, List.length_cons, ih hlength]

/-- Items of two lists that are taken by their position are taken in pairs. -/
theorem foldl_range_getD {σ : Type} (f : σ → UInt32 → UInt32 → σ) {xs ys : List UInt32}
    (h : xs.length = ys.length) (s : σ) :
    (List.range xs.length).foldl (fun t k => f t (xs.getD k 0) (ys.getD k 0)) s =
      (xs.zip ys).foldl (fun t pair => f t pair.1 pair.2) s := by
  induction xs generalizing ys s with
  | nil => simp
  | cons x xs ih =>
    cases ys with
    | nil => simp at h
    | cons y ys =>
      rw [List.length_cons, List.length_cons, Nat.add_right_cancel_iff] at h
      rw [List.length_cons, List.range_succ_eq_map, List.foldl_cons, List.foldl_map,
        List.zip_cons_cons, List.foldl_cons, ← ih h]
      simp

/-- The words so far with the one that follows those from a position on. -/
def pushWord (w : Array UInt32) (k : Nat) : Array UInt32 := w.push (nextWord (w.toList.drop k))

/-- A schedule comes about word by word. -/
theorem schedule_eq (block : Array UInt32) :
    schedule block = (List.range 48).foldl pushWord block := by
  have hget : ∀ (w : Array UInt32) (k i : Nat),
      (w.toList.drop k).getD i 0 = w.getD (k + i) 0 := by
    intro w k i
    simp [List.getD_eq_getElem?_getD]
  have hpush : ∀ w k, pushWord w k = w.push (w.getD k 0 +
      (rotate (w.getD (k + 1) 0) 7 ^^^ rotate (w.getD (k + 1) 0) 18 ^^^ (w.getD (k + 1) 0 >>> 3)) +
      w.getD (k + 9) 0 + (rotate (w.getD (k + 14) 0) 17 ^^^ rotate (w.getD (k + 14) 0) 19 ^^^
        (w.getD (k + 14) 0 >>> 10))) := by
    intro w k
    simp only [pushWord, nextWord, hget, Nat.add_zero]
  exact congrArg (fun step => (List.range 48).foldl step block)
    (funext fun w => funext fun k => (hpush w k).symm)

/-- Words that are pushed continue the sixteen that stand at the end. -/
theorem toList_foldl_pushWord (count : Nat) :
    ∀ {before window : List UInt32} {w : Array UInt32}, w.toList = before ++ window →
      window.length = 16 →
      ((List.range' before.length count).foldl pushWord w).toList =
        before ++ continued count window := by
  induction count with
  | zero => exact fun hw _ => hw
  | succ count ih =>
    intro before window w hw hlength
    cases window with
    | nil => simp at hlength
    | cons first rest =>
      have hpush : (pushWord w before.length).toList =
          (before ++ [first]) ++ (rest ++ [nextWord (first :: rest)]) := by
        rw [pushWord, Array.toList_push, hw, List.drop_left]
        simp
      have hmore := ih hpush (by simpa using hlength)
      rw [List.length_append, List.length_singleton] at hmore
      rw [List.range'_succ, List.foldl_cons, hmore, continued]
      simp

/-- The words of a schedule come one by one from the sixteen before them. -/
theorem toList_schedule {block : Array UInt32} (h : block.size = 16) :
    (schedule block).toList = continued 48 block.toList := by
  have hfold := @toList_foldl_pushWord 48 [] block.toList block rfl (by simpa using h)
  rw [List.length_nil, List.nil_append] at hfold
  rw [schedule_eq, List.range_eq_range', hfold]

/-- A block is absorbed with lists. -/
theorem absorb_eq {block : Array UInt32} (h : block.size = 16) (s : State) :
    absorb s block = s.add (rounds s (continued 48 block.toList)) := by
  have hlength : roundConstants.toList.length = (continued 48 block.toList).length := by
    rw [length_continued 48 (by simpa using h)]
    rfl
  have hrounds := foldl_range_getD round hlength s
  have hget : ∀ (w : Array UInt32) (k : Nat), w.toList.getD k 0 = w.getD k 0 := by
    intro w k
    simp [List.getD_eq_getElem?_getD]
  have hsize : roundConstants.toList.length = 64 := rfl
  rw [hsize, ← toList_schedule h] at hrounds
  simp only [hget] at hrounds
  rw [rounds, ← toList_schedule h, ← hrounds]
  rfl

/-- Whole blocks are absorbed one after the other. -/
theorem absorbAll_eq {count : Nat} {words : List UInt32} (h : words.length = 16 * count)
    (s : State) : absorbAll s words = absorbBlocks count s words := by
  induction count generalizing words s with
  | zero =>
    obtain rfl : words = [] := by simpa using h
    rw [absorbAll]
    rfl
  | succ count ih =>
    have hne : words.isEmpty = false := by
      cases words with
      | nil => simp at h
      | cons word rest => rfl
    have hblock : ((words.take 16).toArray).size = 16 := by
      rw [List.size_toArray, List.length_take]
      omega
    have hrest : (words.drop 16).length = 16 * count := by
      rw [List.length_drop]
      omega
    rw [absorbAll, hne, if_neg Bool.false_ne_true, ih hrest, absorb_eq hblock]
    rfl

/-- The digest of a message of so many blocks. -/
theorem digest_eq {message : List UInt8} {count : Nat}
    (h : (wordsOf (padded message)).length = 16 * count) :
    digest message = (absorbBlocks count .start (wordsOf (padded message))).words := by
  rw [digest, absorbAll_eq h]

/-- The digest of a text whose bytes make so many blocks. -/
theorem ofText_ofList {text : List Char} {count : Nat}
    (h : (wordsOf (padded (text.flatMap String.utf8EncodeChar))).length = 16 * count) :
    ofText (String.ofList text) =
      String.ofList ((absorbBlocks count .start
        (wordsOf (padded (text.flatMap String.utf8EncodeChar)))).words.flatMap
          fun word => Text.hexDigits 8 word.toNat) := by
  rw [ofText, Text.encodeUtf8_eq_flatMap, String.toList_ofList, hexDigest, digest_eq h]

end StyleTokens.Sha256
