import StyleTokens.Text.Hex
import StyleTokens.Text.Utf8

/-!
# SHA-256

The digest of FIPS 180-4: a message is padded to whole blocks of 64 bytes, and every block changes
a state of eight words in sixty-four rounds.
-/

namespace StyleTokens.Sha256

/-- The first 32 bits of the fractional parts of the cube roots of the first 64 primes. -/
def roundConstants : Array UInt32 := #[
  0x428a2f98, 0x71374491, 0xb5c0fbcf, 0xe9b5dba5, 0x3956c25b, 0x59f111f1, 0x923f82a4, 0xab1c5ed5,
  0xd807aa98, 0x12835b01, 0x243185be, 0x550c7dc3, 0x72be5d74, 0x80deb1fe, 0x9bdc06a7, 0xc19bf174,
  0xe49b69c1, 0xefbe4786, 0x0fc19dc6, 0x240ca1cc, 0x2de92c6f, 0x4a7484aa, 0x5cb0a9dc, 0x76f988da,
  0x983e5152, 0xa831c66d, 0xb00327c8, 0xbf597fc7, 0xc6e00bf3, 0xd5a79147, 0x06ca6351, 0x14292967,
  0x27b70a85, 0x2e1b2138, 0x4d2c6dfc, 0x53380d13, 0x650a7354, 0x766a0abb, 0x81c2c92e, 0x92722c85,
  0xa2bfe8a1, 0xa81a664b, 0xc24b8b70, 0xc76c51a3, 0xd192e819, 0xd6990624, 0xf40e3585, 0x106aa070,
  0x19a4c116, 0x1e376c08, 0x2748774c, 0x34b0bcb5, 0x391c0cb3, 0x4ed8aa4a, 0x5b9cca4f, 0x682e6ff3,
  0x748f82ee, 0x78a5636f, 0x84c87814, 0x8cc70208, 0x90befffa, 0xa4506ceb, 0xbef9a3f7, 0xc67178f2]

/-- The eight words that a digest is computed in. -/
structure State where
  /-- The first word. -/
  a : UInt32
  /-- The second word. -/
  b : UInt32
  /-- The third word. -/
  c : UInt32
  /-- The fourth word. -/
  d : UInt32
  /-- The fifth word. -/
  e : UInt32
  /-- The sixth word. -/
  f : UInt32
  /-- The seventh word. -/
  g : UInt32
  /-- The eighth word. -/
  h : UInt32
  deriving DecidableEq, Repr

/-- The first 32 bits of the fractional parts of the square roots of the first 8 primes. -/
def State.start : State :=
  ⟨0x6a09e667, 0xbb67ae85, 0x3c6ef372, 0xa54ff53a,
    0x510e527f, 0x9b05688c, 0x1f83d9ab, 0x5be0cd19⟩

/-- The sum of two states, word by word. -/
def State.add (s t : State) : State :=
  ⟨s.a + t.a, s.b + t.b, s.c + t.c, s.d + t.d, s.e + t.e, s.f + t.f, s.g + t.g, s.h + t.h⟩

/-- The words of a state, in order. -/
def State.words (s : State) : List UInt32 := [s.a, s.b, s.c, s.d, s.e, s.f, s.g, s.h]

/-- A word turned to the right. -/
def rotate (x : UInt32) (n : UInt32) : UInt32 := (x >>> n) ||| (x <<< (32 - n))

/-- The number of bytes of a message as the big-endian count of its bits, in eight bytes. -/
def lengthBytes (count : Nat) : List UInt8 :=
  (List.range 8).map fun k => UInt8.ofNat (8 * count / Nat.pow 256 (7 - k))

/-- A message filled up to whole blocks: a one bit, zeros, and the length. -/
def padded (message : List UInt8) : List UInt8 :=
  let count := message.length
  message ++ 0x80 :: List.replicate ((119 - count % 64) % 64) 0 ++ lengthBytes count

/-- Bytes joined to big-endian words. -/
def wordsOf : List UInt8 → List UInt32
  | a :: b :: c :: d :: rest =>
    ((a.toUInt32 <<< 24) ||| (b.toUInt32 <<< 16) ||| (c.toUInt32 <<< 8) ||| d.toUInt32) ::
      wordsOf rest
  | _ => []

/-- The words of a block continued to the sixty-four words of its rounds. -/
def schedule (block : Array UInt32) : Array UInt32 :=
  (List.range 48).foldl (fun w k =>
    let x := w.getD (k + 1) 0
    let y := w.getD (k + 14) 0
    let s := rotate x 7 ^^^ rotate x 18 ^^^ (x >>> 3)
    let t := rotate y 17 ^^^ rotate y 19 ^^^ (y >>> 10)
    w.push (w.getD k 0 + s + w.getD (k + 9) 0 + t)) block

/-- One round. -/
def round (s : State) (constant word : UInt32) : State :=
  let choice := (s.e &&& s.f) ^^^ ((s.e ^^^ 0xffffffff) &&& s.g)
  let majority := (s.a &&& s.b) ^^^ (s.a &&& s.c) ^^^ (s.b &&& s.c)
  let t := s.h + (rotate s.e 6 ^^^ rotate s.e 11 ^^^ rotate s.e 25) + choice + constant + word
  let u := (rotate s.a 2 ^^^ rotate s.a 13 ^^^ rotate s.a 22) + majority
  ⟨t + u, s.a, s.b, s.c, s.d + t, s.e, s.f, s.g⟩

/-- The state after a block. -/
def absorb (s : State) (block : Array UInt32) : State :=
  let w := schedule block
  s.add ((List.range 64).foldl (fun t k => round t (roundConstants.getD k 0) (w.getD k 0)) s)

/-- The state after the words of all blocks. -/
def absorbAll (s : State) (words : List UInt32) : State :=
  if words.isEmpty then s else absorbAll (absorb s (words.take 16).toArray) (words.drop 16)
termination_by words.length
decreasing_by
  have : words ≠ [] := by simpa using ‹¬words.isEmpty = true›
  have := List.length_pos_iff.mpr this
  simp only [List.length_drop]
  omega

/-- The digest of a message. -/
def digest (message : List UInt8) : List UInt32 :=
  (absorbAll .start (wordsOf (padded message))).words

/-- The digest of a message in hexadecimal. -/
def hexDigest (message : List UInt8) : String :=
  String.ofList ((digest message).flatMap fun word => Text.hexDigits 8 word.toNat)

/-- The digest of a text's UTF-8 bytes in hexadecimal. -/
def ofText (text : String) : String := hexDigest (Text.encodeUtf8 text)

end StyleTokens.Sha256
