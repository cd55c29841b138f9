/-
Locale tags `language[-Script][-REGION]`.

A tag is two or three ASCII letters, then optionally four ASCII letters, then optionally two ASCII
letters or three decimal digits; subtags after these are allowed and dropped, but none may be
empty.  `-` and `_` separate subtags and blanks around the tag are ignored.  A tag is kept in
canonical case: small language, capitalised script, capital region.

* `Tag.parse?` reads a tag, `Tag.text` writes one.
* A subtag may carry one line feed at its end, which stays part of it (`stem`).
-/
import Enrollment.Text.Digit

namespace Enrollment.Locale

open Enrollment.Text

/-- A locale tag. -/
structure Tag where
  language : String
  script : Option String := none
  region : Option String := none
deriving DecidableEq

/-- A subtag without the one line feed it may end in. -/
def stem (cs : List Char) : List Char :=
  if cs.getLast? = some '\n' then cs.dropLast else cs

/-- Two or three ASCII letters. -/
def isLanguage (cs : List Char) : Bool :=
  ((stem cs).length = 2 || (stem cs).length = 3) && (stem cs).all isAsciiLetter

/-- Four ASCII letters. -/
def isScript (cs : List Char) : Bool := (stem cs).length = 4 && (stem cs).all isAsciiLetter

/-- Two ASCII letters, or three decimal digits of any script. -/
def isRegion (cs : List Char) : Bool :=
  ((stem cs).length = 2 && (stem cs).all isAsciiLetter) ||
    ((stem cs).length = 3 && (stem cs).all isDecimalDigit)

/-- ASCII letters made small. -/
def small (cs : List Char) : List Char := cs.map Char.toLower

/-- ASCII letters made capital. -/
def capital (cs : List Char) : List Char := cs.map Char.toUpper

/-- The first letter capital, the others small. -/
def capitalised : List Char → List Char
  | [] => []
  | c :: rest => c.toUpper :: small rest

/-- The subtags of a text, blanks around it ignored. -/
def subtags (s : String) : List (List Char) :=
  splitAt '-' ((trimBoth isBlank s.toList).map fun c => if c = '_' then '-' else c)

/-- The subtag in front, if it is of the given kind, and those after it. -/
def takeSubtag (kind : List Char → Bool) : List (List Char) → Option (List Char) × List (List Char)
  | [] => (none, [])
  | part :: rest => if kind part then (some part, rest) else (none, part :: rest)

/-- The tag of a list of subtags. -/
def Tag.ofSubtags? : List (List Char) → Option Tag
  | [] => none
  | first :: rest =>
    if isLanguage first then
      let (script, rest) := takeSubtag isScript rest
      let (region, rest) := takeSubtag isRegion rest
      if rest.any List.isEmpty then none
      else some {
        language := String.ofList (small first)
        script := script.map fun s => String.ofList (capitalised s)
        region := region.map fun r => String.ofList (capital r) }
    else none

/-- The tag that a text spells. -/
def Tag.parse? (s : String) : Option Tag := Tag.ofSubtags? (subtags s)

/-- The subtags that are there and not empty, joined by `-`. -/
def Tag.text (t : Tag) : String :=
  "-".intercalate (([some t.language, t.script, t.region].filterMap id).filter (· ≠ ""))

end Enrollment.Locale
