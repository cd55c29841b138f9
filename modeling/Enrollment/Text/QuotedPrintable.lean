/-
Quoted-printable: bytes as printable ASCII in short lines.

Printable ASCII and the tab stand for themselves, except `=`; any other byte is an escape of three
characters.  A line longer than 78 characters is cut by `=` at a line end, never inside an escape,
and a blank at the end of a line is protected.
-/
import Enrollment.Text.Percent

namespace Enrollment.Text.QuotedPrintable

/-- A byte as an escape. -/
def escape (b : UInt8) : List Char := ['=', hexDigit (b.toNat / 16), hexDigit (b.toNat % 16)]

/-- A byte inside a line. -/
def encodeByte (b : UInt8) : List Char :=
  if b = 9 ∨ (32 ≤ b ∧ b ≤ 126 ∧ b ≠ 61) then [Char.ofNat b.toNat] else escape b

/-- The end of a line of at most 78 characters: a blank in last place is escaped, or cut off when
the line has no room for the escape. -/
def closeLine (cs : List Char) : List Char :=
  match cs.getLast? with
  | none => []
  | some c =>
    if c = ' ' ∨ c = '\t' then
      let escaped := escape (UInt8.ofNat c.toNat)
      cs.dropLast ++
        (if cs.length ≤ 76 then escaped
        else if cs.length = 77 then [c, '=', '\n']
        else '=' :: '\n' :: escaped)
    else cs

/-- A line cut into pieces, each with the line end that follows it. -/
def foldLine (cs : List Char) : List Char :=
  if h : 79 ≤ cs.length then
    if cs[75] = '=' then cs.take 76 ++ '\n' :: foldLine (cs.drop 75)
    else if cs[76] = '=' then cs.take 77 ++ '\n' :: foldLine (cs.drop 76)
    else cs.take 77 ++ '=' :: '\n' :: foldLine (cs.drop 77)
  else closeLine cs ++ ['\n']
termination_by cs.length
decreasing_by all_goals simp only [List.length_drop]; omega

/-- Lines of bytes, each followed by a line end. -/
def encode (lines : List (List UInt8)) : List Char :=
  lines.flatMap fun line => foldLine (line.flatMap encodeByte)

end Enrollment.Text.QuotedPrintable
