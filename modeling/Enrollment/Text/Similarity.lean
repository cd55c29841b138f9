/-
How alike two texts are, for proposals where a name was mistyped.

Two texts share the characters of their longest common block, and in the same way those of the
parts in front of it and behind it.  They are alike when the shared characters, counted in both,
make up at least three fifths of the two.
-/
namespace Enrollment.Text

/-- How many characters two texts have in common in front. -/
def sharedFront : List Char → List Char → Nat
  | a :: as, b :: bs => if a = b then sharedFront as bs + 1 else 0
  | _, _ => 0

/-- A block that stands in two texts: where it begins in either, and its length. -/
structure Block where
  left : Nat
  right : Nat
  length : Nat
deriving DecidableEq

/-- The longest common block; of equally long ones the first of the left text, then of the right. -/
def longestBlock (a b : List Char) : Block :=
  let blocks := (List.range a.length).flatMap fun i =>
    (List.range b.length).map fun j => ⟨i, j, sharedFront (a.drop i) (b.drop j)⟩
  blocks.foldl (fun best x => if best.length < x.length then x else best) ⟨0, 0, 0⟩

/-- How many characters two texts share; `fuel` bounds the number of blocks. -/
def sharedFrom : (fuel : Nat) → List Char → List Char → Nat
  | 0, _, _ => 0
  | fuel + 1, a, b =>
    let m := longestBlock a b
    if m.length = 0 then 0
    else sharedFrom fuel (a.take m.left) (b.take m.right) + m.length +
      sharedFrom fuel (a.drop (m.left + m.length)) (b.drop (m.right + m.length))

/-- How many characters two texts share. -/
def shared (a b : List Char) : Nat := sharedFrom a.length a b

/-- A proposal for a mistyped name. -/
structure Proposal where
  name : String
  shared : Nat
  length : Nat

/-- A name as a proposal for a word. -/
def Proposal.of (word name : String) : Proposal :=
  ⟨name, Text.shared name.toList word.toList, name.length + word.length⟩

/-- Whether a proposal is good enough. -/
def Proposal.isAlike (p : Proposal) : Bool := 3 * p.length ≤ 10 * p.shared

/-- Whether a proposal comes before another: the more alike first, then the later name. -/
def Proposal.before (p q : Proposal) : Bool :=
  let a := p.shared * q.length
  let b := q.shared * p.length
  b < a || (a = b && q.name ≤ p.name)

/-- The names, three at most, that a word may be a misspelling of, in alphabetical order. -/
def proposals (word : String) (names : List String) : List String :=
  let good := (names.map (Proposal.of word)).filter Proposal.isAlike
  let best := (good.mergeSort Proposal.before).take 3
  (best.map (·.name)).mergeSort fun a b => a ≤ b

end Enrollment.Text
