/-
Blank characters, and the cutting of text at blanks, at a separator and at line ends.

* `isBlank` is the Unicode white space together with the four information separators
  U+001C–U+001F.  It is what `strip` removes at both ends of a text.
* `splitAt sep` cuts a text at every occurrence of one character; `n` occurrences give `n + 1`
  pieces, so the empty text has one piece.
* `isLineBreak` is the set of characters that end a line of running text, wider than the two
  that end a line of a mail body (`bodyLines`).
-/
import Enrollment.Text.Ranges

namespace Enrollment.Text

/-- The blank characters. -/
def blankRanges : Array (Nat × Nat) := #[
  (0x09, 0x0d), (0x1c, 0x20), (0x85, 0x85), (0xa0, 0xa0), (0x1680, 0x1680), (0x2000, 0x200a),
  (0x2028, 0x2029), (0x202f, 0x202f), (0x205f, 0x205f), (0x3000, 0x3000)]

/-- White space of any script, and the information separators. -/
def isBlank (c : Char) : Bool := inRanges blankRanges c.toNat

/-- The text without the characters of a class at its two ends. -/
def trimBoth (drop : Char → Bool) (cs : List Char) : List Char :=
  ((cs.dropWhile drop).reverse.dropWhile drop).reverse

/-- The text without blanks at its two ends. -/
def strip (s : String) : String := String.ofList (trimBoth isBlank s.toList)

/-- The pieces between the occurrences of `sep`, in order; never empty. -/
def splitAt (sep : Char) : List Char → List (List Char)
  | [] => [[]]
  | c :: rest =>
    match splitAt sep rest with
    | [] => [[]]
    | piece :: pieces => if c = sep then [] :: piece :: pieces else (c :: piece) :: pieces

/-- What stands before the first `sep` and, when there is one, what stands after it. -/
def cutAt (sep : Char) (cs : List Char) : List Char × Option (List Char) :=
  match cs.dropWhile (· ≠ sep) with
  | [] => (cs, none)
  | _ :: rest => (cs.takeWhile (· ≠ sep), some rest)

/-! ### Lines -/

/-- The characters that end a line of running text. -/
def isLineBreak (c : Char) : Bool :=
  inRanges #[(0x0a, 0x0d), (0x1c, 0x1e), (0x85, 0x85), (0x2028, 0x2029)] c.toNat

/-- Whether something follows the first line end of a text (`\r\n` is one line end). -/
def hasSecondLine (cs : List Char) : Bool :=
  match cs.dropWhile (fun c => !isLineBreak c) with
  | [] => false
  | '\r' :: '\n' :: rest => !rest.isEmpty
  | _ :: rest => !rest.isEmpty

/-- The lines of a mail body: cut at `\r\n`, `\n` and `\r`; a last line that ends in a line end is
followed by nothing. -/
def bodyLines : List Char → List (List Char)
  | [] => []
  | '\r' :: '\n' :: rest => [] :: bodyLines rest
  | '\r' :: rest => [] :: bodyLines rest
  | '\n' :: rest => [] :: bodyLines rest
  | c :: rest =>
    match rest with
    | [] => [[c]]
    | d :: _ =>
      if d = '\r' ∨ d = '\n' then
        match bodyLines rest with
        | [] => [[c]]
        | _ :: lines => [c] :: lines
      else
        match bodyLines rest with
        | [] => [[c]]
        | line :: lines => (c :: line) :: lines

end Enrollment.Text
