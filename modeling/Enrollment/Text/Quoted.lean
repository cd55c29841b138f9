/-
A text in quotes, on one line and with nothing invisible in it: the form in which messages quote
what they were given.

The quotes are single unless the text holds a single quote and no double one.  The quote in use
and the backslash are escaped by a backslash; tab, line feed and carriage return have letters of
their own; any other unprintable character is written by its code point.
-/
import Enrollment.Text.Percent
import Enrollment.Text.PrintableTable
import Enrollment.Text.Ranges

namespace Enrollment.Text

/-- The quote that a text is put in. -/
def quoteFor (cs : List Char) : Char :=
  if cs.contains '\x27' && !cs.contains '\x22' then '\x22' else '\x27'

/-- A number in `width` small hexadecimal digits. -/
def hexDigits : (width : Nat) → Nat → List Char
  | 0, _ => []
  | width + 1, n => hexDigits width (n / 16) ++ [(hexDigit (n % 16)).toLower]

/-- A character by its code point, in the shortest of the three widths that holds it. -/
def escapeCode (n : Nat) : List Char :=
  if n < 0x100 then '\\' :: 'x' :: hexDigits 2 n
  else if n < 0x10000 then '\\' :: 'u' :: hexDigits 4 n
  else '\\' :: 'U' :: hexDigits 8 n

/-- One character between quotes. -/
def quotedChar (quote : Char) (c : Char) : List Char :=
  if c = quote ∨ c = '\\' then ['\\', c]
  else match c with
  | '\t' => ['\\', 't']
  | '\n' => ['\\', 'n']
  | '\r' => ['\\', 'r']
  | c => if inRanges unprintableRanges c.toNat then escapeCode c.toNat else [c]

/-- The text in quotes. -/
def quoted (s : String) : String :=
  let quote := quoteFor s.toList
  String.ofList (quote :: s.toList.flatMap (quotedChar quote) ++ [quote])

end Enrollment.Text
