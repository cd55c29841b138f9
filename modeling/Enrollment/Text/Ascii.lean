/-
Text that has to be ASCII: where it is not, and how that is reported.

A report names the first run of characters beyond ASCII: one character by its escaped code point,
several by the positions of the first and the last.
-/
import Enrollment.Text.Quoted

namespace Enrollment.Text

/-- The first run of characters beyond ASCII in a text. -/
structure NotAscii where
  position : Nat
  first : Char
  length : Nat
deriving DecidableEq

/-- Whether a character is ASCII. -/
def isAscii (c : Char) : Bool := c.toNat < 0x80

/-- The first run beyond ASCII, if there is one. -/
def notAscii? (s : String) : Option NotAscii :=
  let cs := s.toList
  match cs.dropWhile isAscii with
  | [] => none
  | c :: rest => some ⟨(cs.takeWhile isAscii).length, c, (rest.takeWhile (!isAscii ·)).length + 1⟩

/-- The report of a run beyond ASCII. -/
def NotAscii.message (e : NotAscii) : String :=
  (if e.length = 1 then
    "'ascii' codec can't encode character '" ++ String.ofList (escapeCode e.first.toNat) ++
      "' in position " ++ toString e.position
  else
    "'ascii' codec can't encode characters in position " ++ toString e.position ++ "-" ++
      toString (e.position + e.length - 1)) ++ ": ordinal not in range(128)"

end Enrollment.Text
