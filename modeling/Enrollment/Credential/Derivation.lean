/-
The derivation of a tag from a password, made costly in memory: Argon2, in its three variants.

Memory is a table of blocks of 128 words, one row for each lane.  Every block is computed from the
one before it in its lane and from another block that was computed earlier, chosen by the content
of memory or, in the variants that hide access, by a stream of numbers that does not depend on the
password.  The lanes are computed in four slices; within a slice no lane looks at another's part.
-/
import Enrollment.Credential.Digest
import Enrollment.Credential.Hash

namespace Enrollment.Credential

/-- The derivation of a tag of a given length from a salt and a password. -/
abbrev Derivation := Cost → (length : Nat) → (salt password : List UInt8) → List UInt8

/-! ### Blocks -/

/-- A block of 128 words. -/
abbrev Block := Array UInt64

/-- A block of zeros. -/
def emptyBlock : Block := Array.replicate 128 0

/-- Two blocks combined word by word. -/
def xorBlocks (a b : Block) : Block := Array.zipWith (· ^^^ ·) a b

/-- The lower half of a word. -/
def lowHalf (w : UInt64) : UInt64 := w &&& 0xffffffff

/-- The sum of two words and of twice the product of their lower halves. -/
def addMul (a b : UInt64) : UInt64 := a + b + 2 * lowHalf a * lowHalf b

/-- Mixes four words of a block. -/
def mixFour (v : Block) (i j k l : Nat) : Block :=
  let a := v.getD i 0
  let b := v.getD j 0
  let c := v.getD k 0
  let d := v.getD l 0
  let a := addMul a b
  let d := rotateRight (d ^^^ a) 32
  let c := addMul c d
  let b := rotateRight (b ^^^ c) 24
  let a := addMul a b
  let d := rotateRight (d ^^^ a) 16
  let c := addMul c d
  let b := rotateRight (b ^^^ c) 63
  (((v.setIfInBounds i a).setIfInBounds j b).setIfInBounds k c).setIfInBounds l d

/-- Mixes sixteen words of a block, given by their places. -/
def mixSixteen (v : Block) (p : Nat → Nat) : Block :=
  Digest.quarters.foldl (fun v (i, j, k, l) => mixFour v (p i) (p j) (p k) (p l)) v

/-- The place of the `n`-th word in a row of a block. -/
def rowPlace (row n : Nat) : Nat := 16 * row + n

/-- The place of the `n`-th word in a double column of a block. -/
def columnPlace (column n : Nat) : Nat := 16 * (n / 2) + 2 * column + n % 2

/-- The compression of two blocks into one. -/
def compress (a b : Block) : Block :=
  let start := xorBlocks a b
  let mixed := (List.range 8).foldl (fun v row => mixSixteen v (rowPlace row)) start
  let mixed := (List.range 8).foldl (fun v column => mixSixteen v (columnPlace column)) mixed
  xorBlocks start mixed

/-! ### Digests of any length -/

/-- The halves of a chain of digests, and the last digest of the chain in full. -/
def digestChain : (links : Nat) → List UInt8 → List UInt8 × List UInt8
  | 0, last => ([], last)
  | links + 1, v =>
    let (halves, last) := digestChain links (digest 64 v)
    (v.take 32 ++ halves, last)

/-- The digest of a byte string, of any length. -/
def longDigest (length : Nat) (input : List UInt8) : List UInt8 :=
  let input := lowBytes 4 length ++ input
  if length ≤ 64 then digest length input
  else
    let links := (length + 31) / 32 - 2
    let (halves, last) := digestChain (links - 1) (digest 64 input)
    halves ++ last.take 32 ++ digest (length - 32 * links) last

/-! ### Memory -/

/-- The shape of memory: lanes, and blocks in a quarter of a lane. -/
structure Shape where
  lanes : Nat
  segment : Nat

/-- The shape for a cost: the memory asked for, less what does not fill four equal slices. -/
def Cost.shape (c : Cost) : Shape := ⟨c.lanes, c.memory / (4 * c.lanes)⟩

namespace Shape

/-- The number of blocks of a lane. -/
def columns (s : Shape) : Nat := 4 * s.segment

/-- The number of all blocks. -/
def size (s : Shape) : Nat := s.lanes * s.columns

/-- The place of a block. -/
def place (s : Shape) (lane column : Nat) : Nat := lane * s.columns + column

end Shape

/-- All blocks. -/
abbrev Memory := Array Block

/-- A position in the computation. -/
structure Position where
  pass : Nat
  slice : Nat
  lane : Nat
  index : Nat

/-- How many blocks of a lane a position may refer to. -/
def Position.reach (p : Position) (s : Shape) (lane : Nat) : Nat :=
  let done := if p.pass = 0 then p.slice * s.segment else s.columns - s.segment
  if lane = p.lane then done + p.index - 1
  else if p.index = 0 then done - 1 else done

/-- The block that a number refers to from a position: its lane and its column. -/
def Position.reference (p : Position) (s : Shape) (number : UInt64) : Nat × Nat :=
  let low := (lowHalf number).toNat
  let high := (number >>> 32).toNat
  let lane := if p.pass = 0 ∧ p.slice = 0 then p.lane else high % s.lanes
  let reach := p.reach s lane
  let back := reach * (low * low / 0x100000000) / 0x100000000
  let first := if p.pass = 0 ∨ p.slice = 3 then 0 else (p.slice + 1) * s.segment
  (lane, (first + reach - 1 - back) % s.columns)

/-- Whether the choice of blocks is hidden at a position. -/
def Position.isHidden (p : Position) : Variant → Bool
  | .d => false
  | .i => true
  | .id => p.pass = 0 && p.slice < 2

/-- The block of numbers that choose the blocks from a position on, where the choice is hidden. -/
def Position.numbers (p : Position) (c : Cost) (code : Nat) : Block :=
  let header := [p.pass, p.lane, p.slice, c.shape.size, c.time, code, p.index / 128 + 1]
  let input := ((header.map UInt64.ofNat) ++ List.replicate 121 0).toArray
  compress emptyBlock (compress emptyBlock input)

/-- The code of a variant. -/
def Variant.code : Variant → Nat
  | .d => 0
  | .i => 1
  | .id => 2

/-- Computes the block at a position; `numbers` is the current block of hidden numbers. -/
def Position.fill (p : Position) (c : Cost) (numbers : Block) (m : Memory) : Memory :=
  let s := c.shape
  let column := p.slice * s.segment + p.index
  let here := s.place p.lane column
  let previous :=
    m.getD (s.place p.lane (if column = 0 then s.columns - 1 else column - 1)) emptyBlock
  let number := if p.isHidden c.variant then numbers.getD (p.index % 128) 0
    else previous.getD 0 0
  let (lane, at') := p.reference s number
  let block := compress previous (m.getD (s.place lane at') emptyBlock)
  let block := if p.pass = 0 ∨ c.version = firstVersion then block
    else xorBlocks block (m.getD here emptyBlock)
  m.setIfInBounds here block

/-- Computes the part of a lane in one slice.  In the first pass its first two blocks are given. -/
def fillSegment (c : Cost) (pass slice lane : Nat) (m : Memory) : Memory :=
  let given := if pass = 0 ∧ slice = 0 then 2 else 0
  let start : Position := ⟨pass, slice, lane, 0⟩
  let numbersAt (p : Position) : Block :=
    if p.isHidden c.variant then p.numbers c c.variant.code else emptyBlock
  ((List.range (c.shape.segment - given)).foldl (fun (m, numbers) i =>
    let p := { start with index := i + given }
    let numbers := if p.index % 128 = 0 then numbersAt p else numbers
    (p.fill c numbers m, numbers)) (m, numbersAt start)).1

/-- The first digest, over everything that goes into the derivation. -/
def seed (c : Cost) (length : Nat) (salt password : List UInt8) : List UInt8 :=
  let number := lowBytes 4
  digest 64 (number c.lanes ++ number length ++ number c.memory ++ number c.time ++
    number c.version ++ number c.variant.code ++ number password.length ++ password ++
    number salt.length ++ salt ++ number 0 ++ number 0)

/-- Memory with the first two blocks of every lane. -/
def firstMemory (s : Shape) (seed : List UInt8) : Memory :=
  let block (lane column : Nat) : Block :=
    (words 128 (longDigest 1024 (seed ++ lowBytes 4 column ++ lowBytes 4 lane))).toArray
  (List.range s.lanes).foldl (fun m lane =>
    (m.setIfInBounds (s.place lane 0) (block lane 0)).setIfInBounds (s.place lane 1) (block lane 1))
    (Array.replicate s.size emptyBlock)

/-- The memory-hard derivation of a tag. -/
def argon2 : Derivation := fun c length salt password =>
  let s := c.shape
  let start := firstMemory s (seed c length salt password)
  let filled := (List.range c.time).foldl (fun m pass =>
    (List.range 4).foldl (fun m slice =>
      (List.range s.lanes).foldl (fun m lane => fillSegment c pass slice lane m) m) m) start
  let last := (List.range s.lanes).foldl
    (fun b lane => xorBlocks b (filled.getD (s.place lane (s.columns - 1)) emptyBlock)) emptyBlock
  longDigest length (last.toList.flatMap wordBytes)

end Enrollment.Credential
