/-
The digest of a byte string: BLAKE2b without a key, of 1 to 64 bytes.

The input is taken in blocks of 128 bytes.  Each block is mixed into a state of eight words in
twelve rounds, in which its sixteen words are used in an order that changes from round to round.
-/
namespace Enrollment.Credential

/-! ### Bytes and words -/

/-- A number in `n` bytes, the lowest first. -/
def lowBytes : (n : Nat) → Nat → List UInt8
  | 0, _ => []
  | n + 1, k => UInt8.ofNat (k % 256) :: lowBytes n (k / 256)

/-- A word as eight bytes, the lowest first. -/
def wordBytes (w : UInt64) : List UInt8 := lowBytes 8 w.toNat

/-- The word of bytes, the lowest first. -/
def wordOf (bytes : List UInt8) : UInt64 :=
  bytes.foldr (fun b w => w <<< 8 ||| b.toUInt64) 0

/-- The first `n` words of a byte string; missing bytes count as zero. -/
def words : (n : Nat) → List UInt8 → List UInt64
  | 0, _ => []
  | n + 1, bytes => wordOf (bytes.take 8) :: words n (bytes.drop 8)

/-- A word with its bits moved to the right, those that leave coming back on the left. -/
def rotateRight (w : UInt64) (n : UInt64) : UInt64 := w >>> n ||| w <<< (64 - n)

namespace Digest

/-- The state before any input. -/
def start : Array UInt64 := #[
  0x6a09e667f3bcc908, 0xbb67ae8584caa73b, 0x3c6ef372fe94f82b, 0xa54ff53a5f1d36f1,
  0x510e527fade682d1, 0x9b05688c2b3e6c1f, 0x1f83d9abfb41bd6b, 0x5be0cd19137e2179]

/-- The order in which the words of a block are used, round by round. -/
def orders : List (List Nat) :=
  let first := [0, 1, 2, 3, 4, 5, 6, 7, 8, 9, 10, 11, 12, 13, 14, 15]
  let second := [14, 10, 4, 8, 9, 15, 13, 6, 1, 12, 0, 2, 11, 7, 5, 3]
  [first, second,
    [11, 8, 12, 0, 5, 2, 15, 13, 10, 14, 3, 6, 7, 1, 9, 4],
    [7, 9, 3, 1, 13, 12, 11, 14, 2, 6, 5, 10, 4, 0, 15, 8],
    [9, 0, 5, 7, 2, 4, 10, 15, 14, 1, 11, 12, 6, 8, 3, 13],
    [2, 12, 6, 10, 0, 11, 8, 3, 4, 13, 7, 5, 15, 14, 1, 9],
    [12, 5, 1, 15, 14, 13, 4, 10, 0, 7, 6, 3, 9, 2, 8, 11],
    [13, 11, 7, 14, 12, 1, 3, 9, 5, 0, 15, 4, 8, 6, 2, 10],
    [6, 15, 14, 9, 11, 3, 0, 8, 12, 2, 13, 7, 1, 4, 10, 5],
    [10, 2, 8, 4, 7, 6, 1, 5, 15, 11, 9, 14, 3, 12, 13, 0],
    first, second]

/-- The columns and then the diagonals of the sixteen working words. -/
def quarters : List (Nat × Nat × Nat × Nat) := [
  (0, 4, 8, 12), (1, 5, 9, 13), (2, 6, 10, 14), (3, 7, 11, 15),
  (0, 5, 10, 15), (1, 6, 11, 12), (2, 7, 8, 13), (3, 4, 9, 14)]

/-- Mixes two words of input into four working words. -/
def mix (v : Array UInt64) (q : Nat × Nat × Nat × Nat) (x y : UInt64) : Array UInt64 :=
  let (i, j, k, l) := q
  let a := v.getD i 0 + v.getD j 0 + x
  let d := rotateRight (v.getD l 0 ^^^ a) 32
  let c := v.getD k 0 + d
  let b := rotateRight (v.getD j 0 ^^^ c) 24
  let a := a + b + y
  let d := rotateRight (d ^^^ a) 16
  let c := c + d
  let b := rotateRight (b ^^^ c) 63
  (((v.setIfInBounds i a).setIfInBounds j b).setIfInBounds k c).setIfInBounds l d

/-- One round over the working words. -/
def round (m : Array UInt64) : List (Nat × Nat × Nat × Nat) → List Nat → Array UInt64 →
    Array UInt64
  | q :: qs, s :: t :: order, v => round m qs order (mix v q (m.getD s 0) (m.getD t 0))
  | _, _, v => v

/-- The state after a block; `count` is the number of bytes so far. -/
def absorb (h : Array UInt64) (block : List UInt8) (count : Nat) (last : Bool) : Array UInt64 :=
  let m := (words 16 block).toArray
  let v := h ++ start
  let v := v.setIfInBounds 12 (v.getD 12 0 ^^^ UInt64.ofNat count)
  let v := if last then v.setIfInBounds 14 (v.getD 14 0 ^^^ 0xffffffffffffffff) else v
  let v := orders.foldl (fun v order => round m quarters order v) v
  h.mapIdx fun i w => w ^^^ v.getD i 0 ^^^ v.getD (i + 8) 0

/-- The length in bytes of a block. -/
def blockLength : Nat := 128

/-- The state after the rest of an input; `count` is the number of bytes before it. -/
def absorbAll (h : Array UInt64) (count : Nat) (input : List UInt8) : Array UInt64 :=
  if _h : input.length ≤ blockLength then absorb h input (count + input.length) true
  else
    absorbAll (absorb h (input.take blockLength) (count + blockLength) false)
      (count + blockLength) (input.drop blockLength)
termination_by input.length
decreasing_by simp only [List.length_drop, blockLength] at *; omega

end Digest

/-- The digest of a byte string, in `length` bytes. -/
def digest (length : Nat) (input : List UInt8) : List UInt8 :=
  let h := Digest.start.setIfInBounds 0
    (Digest.start.getD 0 0 ^^^ 0x01010000 ^^^ UInt64.ofNat length)
  ((Digest.absorbAll h 0 input).toList.flatMap wordBytes).take length

end Enrollment.Credential
