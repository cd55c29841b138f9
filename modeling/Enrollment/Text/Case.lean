/-
Small and capital letters.

`lower` and `upper` are the full case mappings of Unicode: a capital sigma at the end of a word
becomes the final form, and one character may become several.  `asciiLower` moves the 26 ASCII
capitals only; it is what a storage index compares by.  The two agree on ASCII text and part
beyond it.
-/
import Enrollment.Text.CaseTable

namespace Enrollment.Text

/-- The first run that covers the character decides its image. -/
def caseImage (runs : Array CaseRun) (c : Char) : Char :=
  match runs.findSome? (·.image? c.toNat) with
  | some n => Char.ofNat n
  | none => c

/-- The capital I with dot above becomes a small i and a combining dot. -/
def dottedCapitalI : Char := Char.ofNat 0x130

/-- The small form of one character, its neighbours left out of account. -/
def smallForm (c : Char) : List Char :=
  if c.toNat < 0x80 then [c.toLower]
  else if c = dottedCapitalI then ['i', Char.ofNat 0x307]
  else [caseImage smallRuns c]

/-- The capital form of one character. -/
def capitalForm (c : Char) : List Char :=
  if c.toNat < 0x80 then [c.toUpper]
  else match capitalExpansions.find? (·.1 = c.toNat) with
  | some e => e.2.map Char.ofNat
  | none => [caseImage capitalRuns c]

/-- Whether the first character that is not skipped is cased. -/
def startsCased (cs : List Char) : Bool :=
  match cs.dropWhile fun c => inRanges caseIgnorableRanges c.toNat with
  | [] => false
  | c :: _ => inRanges casedRanges c.toNat

/-- The small forms of a text, `before` being what precedes it, last character first.  A sigma is
final when a cased character precedes it and none follows. -/
def lowerAfter (before : List Char) : List Char → List Char
  | [] => []
  | c :: rest =>
    (if c = 'Σ' then [if startsCased before && !startsCased rest then 'ς' else 'σ']
      else smallForm c) ++ lowerAfter (c :: before) rest

/-- The text in small letters. -/
def lower (s : String) : String := String.ofList (lowerAfter [] s.toList)

/-- The text in capital letters. -/
def upper (s : String) : String := String.ofList (s.toList.flatMap capitalForm)

/-- The text with its ASCII capitals made small. -/
def asciiLower (s : String) : String := String.ofList (s.toList.map Char.toLower)

end Enrollment.Text
