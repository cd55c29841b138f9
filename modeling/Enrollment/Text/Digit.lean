/-
Decimal digits of every script, and the reading of a whole number.

A number is an optional sign and then digits, with single underscores allowed between two digits;
blanks around it are ignored.  Numbers of more than `maxDigits` digits are refused, leading zeros
counted.  Main definitions: `digitValue?`, `readInteger?`.
-/
import Enrollment.Text.Blank

namespace Enrollment.Text

/-- The zeros of the scripts that have decimal digits; the other nine digits follow each zero. -/
def digitZeros : Array Nat := #[
  0x30, 0x660, 0x6f0, 0x7c0, 0x966, 0x9e6, 0xa66, 0xae6, 0xb66, 0xbe6, 0xc66, 0xce6, 0xd66,
  0xde6, 0xe50, 0xed0, 0xf20, 0x1040, 0x1090, 0x17e0, 0x1810, 0x1946, 0x19d0, 0x1a80, 0x1a90,
  0x1b50, 0x1bb0, 0x1c40, 0x1c50, 0xa620, 0xa8d0, 0xa900, 0xa9d0, 0xa9f0, 0xaa50, 0xabf0, 0xff10,
  0x104a0, 0x10d30, 0x11066, 0x110f0, 0x11136, 0x111d0, 0x112f0, 0x11450, 0x114d0, 0x11650,
  0x116c0, 0x11730, 0x118e0, 0x11950, 0x11c50, 0x11d50, 0x11da0, 0x16a60, 0x16ac0,
  0x16b50, 0x1d7ce, 0x1d7d8, 0x1d7e2, 0x1d7ec, 0x1d7f6, 0x1e140, 0x1e2f0, 0x1e950,
  0x1fbf0]

/-- The value of a decimal digit. -/
def digitValue? (c : Char) : Option Nat :=
  (digitZeros.find? fun z => z ≤ c.toNat && c.toNat < z + 10).map (c.toNat - ·)

/-- A decimal digit of any script. -/
def isDecimalDigit (c : Char) : Bool := (digitValue? c).isSome

/-- One ASCII letter. -/
def isAsciiLetter (c : Char) : Bool := c.isAlpha

/-- The digits of a run in which single underscores may stand between two digits. -/
def digitRun? : List Char → Option (List Nat)
  | [] => none
  | [c] => (digitValue? c).map ([·])
  | c :: '_' :: rest => do return (← digitValue? c) :: (← digitRun? rest)
  | c :: d :: rest => do return (← digitValue? c) :: (← digitRun? (d :: rest))

/-- The number that a list of decimal digits stands for. -/
def ofDigits (digits : List Nat) : Nat := digits.foldl (fun n d => 10 * n + d) 0

/-- Longer numbers are refused. -/
def maxDigits : Nat := 4300

/-- The number of an unsigned digit run. -/
def readNatural? (cs : List Char) : Option Nat := do
  let digits ← digitRun? cs
  if digits.length ≤ maxDigits then some (ofDigits digits) else none

/-- The number that a text spells, blanks around it ignored. -/
def readInteger? (s : String) : Option Int :=
  match trimBoth isBlank s.toList with
  | '-' :: rest => (readNatural? rest).map fun n => -(n : Int)
  | '+' :: rest => (readNatural? rest).map Int.ofNat
  | rest => (readNatural? rest).map Int.ofNat

/-- Whether a number fits a word of 64 bits with a sign. -/
def fitsWord (n : Int) : Bool := -0x8000000000000000 ≤ n && n < 0x8000000000000000

end Enrollment.Text
