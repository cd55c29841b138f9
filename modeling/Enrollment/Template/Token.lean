/-
The tokens of a template source.

Outside of tags a source is text; a tag is a printed value, a statement or a comment, and between
two raw tags everything is text.

* A line end after a statement or a comment is dropped, and so are the blanks between the start of a
  line and a statement or a comment.
* A minus sign inside either end of a tag drops all blanks on that side; a plus sign keeps them.
* Line ends are written as line feeds, and one at the end of the source is dropped.

Inside a tag brackets are counted: what closes a tag does so only where no bracket is open.

A source is read up to the first place that is no token; the fault stands there as the last token, so
that a fault in what was read before it is the one that is reported.
-/
import Enrollment.Json.Reader
import Enrollment.Template.Basic
import Enrollment.Text.Blank
import Enrollment.Text.Digit

namespace Enrollment.Template

open Enrollment.Text

/-- A token. -/
inductive Token where
  | text (s : String)
  | printBegin
  | printEnd
  | blockBegin
  | blockEnd
  | name (s : String)
  | string (s : String)
  | whole (n : Nat)
  | real (x : Float)
  | sign (s : String)
  /-- What follows cannot be read. -/
  | broken (f : Fault)

/-- How messages call a token. -/
def Token.describe : Token → String
  | .text _ => "template data / text"
  | .printBegin => "begin of print statement"
  | .printEnd => "end of print statement"
  | .blockBegin => "begin of statement block"
  | .blockEnd => "end of statement block"
  | .name s => s
  | .string _ => "string"
  | .whole _ => "integer"
  | .real _ => "float"
  | .sign s => s
  | .broken f => f.message

/-! ### Line ends -/

/-- The characters with every line end written as a line feed. -/
def normalLineEnds : List Char → List Char
  | '\r' :: '\n' :: rest => '\n' :: normalLineEnds rest
  | '\r' :: rest => '\n' :: normalLineEnds rest
  | c :: rest => c :: normalLineEnds rest
  | [] => []

/-- The characters without a line feed at the end. -/
def dropFinalLineEnd (cs : List Char) : List Char :=
  if cs.getLast? = some '\n' then cs.dropLast else cs

/-- The text without blanks at its end. -/
def trimRight (cs : List Char) : List Char := (cs.reverse.dropWhile isBlank).reverse

/-- The text without the blanks after its last line end; where the text has no line end, only if it
starts a line.  A text that ends in other characters is kept. -/
def trimIndent (startsLine : Bool) (cs : List Char) : List Char :=
  let indent := (cs.reverse.takeWhile (· ≠ '\n')).reverse
  let before := cs.take (cs.length - indent.length)
  if indent.all isBlank && (startsLine || !before.isEmpty) then before else cs

/-- The text in front of a tag, as the sign inside the tag's opening has it. -/
def textBefore (sign : Option Char) (indents startsLine : Bool) (cs : List Char) : List Char :=
  if sign = some '-' then trimRight cs
  else if sign = none ∧ indents then trimIndent startsLine cs
  else cs

/-- A text token, unless the text is empty. -/
def textToken (cs : List Char) : List Token :=
  if cs.isEmpty then [] else [.text (String.ofList cs)]

/-! ### Openings and ends of tags -/

/-- The kind of a tag. -/
inductive Tag where
  | comment
  | block
  | print
deriving DecidableEq

/-- The text up to the next opening of a tag, and the tag with what follows its opening. -/
def nextTag : List Char → List Char × Option (Tag × List Char)
  | '\x7b' :: '%' :: rest => ([], some (.block, rest))
  | '\x7b' :: '\x7b' :: rest => ([], some (.print, rest))
  | '\x7b' :: '#' :: rest => ([], some (.comment, rest))
  | c :: rest => let (text, tag) := nextTag rest; (c :: text, tag)
  | [] => ([], none)

/-- The sign in front, if there is one. -/
def takeSign : List Char → Option Char × List Char
  | '-' :: rest => (some '-', rest)
  | '+' :: rest => (some '+', rest)
  | cs => (none, cs)

/-- What follows a word, if the characters start with it. -/
def after? (word : String) (cs : List Char) : Option (List Char) :=
  if word.toList.isPrefixOf cs then some (cs.drop word.length) else none

/-- What follows the end of a statement or a comment, `close` being its last two characters: a line
end is dropped, a minus sign drops all blanks. -/
def afterEnd? (close : String) (cs : List Char) : Option (List Char) :=
  match after? ("-" ++ close) cs with
  | some rest => some (rest.dropWhile isBlank)
  | none =>
    match after? ("+" ++ close) cs with
    | some rest => some rest
    | none =>
      match after? close cs with
      | some ('\n' :: rest) => some rest
      | other => other

/-- What follows the end of a printed value. -/
def afterPrint? (cs : List Char) : Option (List Char) :=
  match after? "-\x7d\x7d" cs with
  | some rest => some (rest.dropWhile isBlank)
  | none => after? "\x7d\x7d" cs

/-- What follows the end of a comment. -/
def afterComment? : List Char → Option (List Char)
  | [] => none
  | c :: rest => (afterEnd? "#\x7d" (c :: rest)).or (afterComment? rest)

/-- What follows the tag that opens raw text, after the opening of a statement. -/
def afterRaw? (cs : List Char) : Option (List Char) := do
  let rest ← after? "raw" ((takeSign cs).2.dropWhile isBlank)
  let rest := rest.dropWhile isBlank
  match after? "-%\x7d" rest with
  | some rest => some (rest.dropWhile isBlank)
  | none => after? "%\x7d" rest

/-- What follows the tag that ends raw text, with the sign inside its opening. -/
def rawEnd? (cs : List Char) : Option (Option Char × List Char) := do
  let (sign, rest) := takeSign (← after? "\x7b%" cs)
  let rest ← after? "endraw" (rest.dropWhile isBlank)
  return (sign, ← afterEnd? "%\x7d" (rest.dropWhile isBlank))

/-- Raw text up to the tag that ends it, the sign of that tag, and what follows it. -/
def rawText? : List Char → Option (List Char × Option Char × List Char)
  | [] => none
  | c :: rest =>
    match rawEnd? (c :: rest) with
    | some (sign, rest) => some ([], sign, rest)
    | none => (rawText? rest).map fun (text, sign, rest) => (c :: text, sign, rest)

/-! ### Inside a tag -/

/-- A character of a name. -/
def isNameChar (c : Char) : Bool :=
  c.isAlphanum || c = '_' || (0xaa ≤ c.toNat && !isBlank c && !(0x2000 ≤ c.toNat && c.toNat < 0x2070))

/-- The token of a name; a name does not start with a digit of any script. -/
def nameToken (cs : List Char) : Token :=
  if cs.head?.any isDecimalDigit then .broken (.malformed "Invalid character in identifier")
  else .name (String.ofList cs)

/-- The characters of a string up to its closing quote, and what follows. -/
def stringBody? (quote : Char) : List Char → Option (List Char × List Char)
  | [] => none
  | '\\' :: c :: rest => (stringBody? quote rest).map fun (s, rest) => ('\\' :: c :: s, rest)
  | c :: rest =>
    if c = quote then some ([], rest)
    else (stringBody? quote rest).map fun (s, rest) => (c :: s, rest)

/-- The last `n` hexadecimal digits of a number. -/
def hexDigits : (n : Nat) → Nat → List Char
  | 0, _ => []
  | n + 1, k => hexDigits n (k / 16) ++ [Nat.digitChar (k % 16)]

/-- A character in ASCII; any other is written as a backslash and its code. -/
def inAscii (c : Char) : List Char :=
  if c.toNat < 0x80 then [c]
  else if c.toNat < 0x100 then '\\' :: 'x' :: hexDigits 2 c.toNat
  else if c.toNat < 0x10000 then '\\' :: 'u' :: hexDigits 4 c.toNat
  else '\\' :: 'U' :: hexDigits 8 c.toNat

/-- The characters that a backslash and one more character stand for. -/
def escaped? (c : Char) : Option (List Char) :=
  match c with
  | '\n' => some []
  | '\\' => some ['\\']
  | '\x27' => some ['\x27']
  | '\x22' => some ['\x22']
  | 'a' => some ['\x07']
  | 'b' => some ['\x08']
  | 't' => some ['\t']
  | 'n' => some ['\n']
  | 'v' => some ['\x0b']
  | 'f' => some ['\x0c']
  | 'r' => some ['\r']
  | _ => none

/-- How many hexadecimal digits a letter asks for after a backslash. -/
def codeLength? (c : Char) : Option Nat :=
  match c with
  | 'x' => some 2
  | 'u' => some 4
  | 'U' => some 8
  | _ => none

/-- The number that digits of a base stand for. -/
def ofBase (base : Nat) (digits : List Nat) : Nat := digits.foldl (fun n d => base * n + d) 0

/-- The character of a code that is written after a backslash and a letter. -/
def coded (letter : Char) (length : Nat) (cs : List Char) : Except Fault Char :=
  match (cs.take length).mapM Json.hexValue? with
  | some digits =>
    if digits.length < length then truncated
    else if 0x110000 ≤ ofBase 16 digits then .error (.malformed "illegal Unicode character")
    else .ok (Json.charOf (ofBase 16 digits))
  | none => truncated
where
  /-- Digits are missing. -/
  truncated : Except Fault Char :=
    .error (.malformed ("truncated \\" ++ String.ofList (letter :: List.replicate length 'X') ++
      " escape"))

/-- The text that the characters between two quotes stand for: a backslash stands with what follows
it for one character, or for itself. -/
def unescape : List Char → Except Fault (List Char)
  | '\\' :: c :: rest =>
    match escaped? c, codeLength? c with
    | some cs, _ => do return cs ++ (← unescape rest)
    | none, some n => do return (← coded c n rest) :: (← unescape (rest.drop n))
    | none, none =>
      if c = 'N' then .error (.malformed "malformed \\N character escape")
      else
        let digits := ((c :: rest).take 3).takeWhile fun d => '0' ≤ d ∧ d ≤ '7'
        if digits.isEmpty then do return '\\' :: c :: (← unescape rest)
        else do
          return Char.ofNat (ofBase 8 (digits.map (·.toNat - 48))) ::
            (← unescape ((c :: rest).drop digits.length))
  | c :: rest => do return c :: (← unescape rest)
  | [] => .ok []
termination_by cs => cs.length
decreasing_by all_goals simp only [List.length_cons, List.length_drop]; omega

/-- The token of a string with the given characters between its quotes. -/
def stringToken (body : List Char) : Token :=
  match unescape (body.flatMap inAscii) with
  | .ok cs => .string (String.ofList cs)
  | .error fault => .broken fault

/-- The signs of more than one character. -/
def longSigns : List String := ["//", "**", "==", "!=", ">=", "<="]

/-- The signs of one character. -/
def shortSigns : List Char :=
  ['+', '-', '/', '*', '%', '~', '[', ']', '(', ')', '\x7b', '\x7d', '>', '<', '=', '.', ':', '|',
    ',', ';']

/-- The digits in front of the characters, one underscore allowed before each, and what follows. -/
def takeDigits (isDigit : Char → Bool) : List Char → List Char × List Char
  | '_' :: c :: rest =>
    if isDigit c then let (digits, rest) := takeDigits isDigit rest; (c :: digits, rest)
    else ([], '_' :: c :: rest)
  | c :: rest =>
    if isDigit c then let (digits, rest) := takeDigits isDigit rest; (c :: digits, rest)
    else ([], c :: rest)
  | [] => ([], [])

/-- A fraction, if there is one, and what follows. -/
def takeFraction (cs : List Char) : List Char × List Char :=
  match cs with
  | '.' :: d :: rest => if d.isDigit then takeDigits Char.isDigit (d :: rest) else ([], cs)
  | _ => ([], cs)

/-- An exponent, if there is one, and what follows. -/
def takeExponent (cs : List Char) : Option Int × List Char :=
  match cs with
  | e :: rest =>
    if e.toLower = 'e' then
      let (sign, rest) := takeSign rest
      match rest with
      | d :: _ =>
        if d.isDigit then
          let (digits, rest) := takeDigits Char.isDigit rest
          let n : Int := Json.digitsValue digits
          (some (if sign = some '-' then -n else n), rest)
        else (none, cs)
      | [] => (none, cs)
    else (none, cs)
  | [] => (none, cs)

/-- The base that a letter after a zero stands for, and its digits. -/
def baseOf? (c : Char) : Option Nat :=
  if c.toLower = 'b' then some 2
  else if c.toLower = 'o' then some 8
  else if c.toLower = 'x' then some 16
  else none

/-- A number of another base than ten, the characters after its leading zero being given. -/
def takeBased? : List Char → Option (Nat × List Char)
  | [] => none
  | c :: rest => do
    let base ← baseOf? c
    let (digits, rest) := takeDigits (fun d => (Json.hexValue? d).any (· < base)) rest
    if digits.isEmpty then none else some (ofBase base (digits.filterMap Json.hexValue?), rest)

/-- The number in front of the characters, which start with a digit.  A whole number in base ten does
not start with a zero, unless it is all zeros. -/
def takeNumber (cs : List Char) : Token × List Char :=
  let (whole, afterWhole) := takeDigits Char.isDigit cs
  let (fraction, afterFraction) := takeFraction afterWhole
  let (exponent, afterExponent) := takeExponent afterFraction
  if fraction.isEmpty && exponent.isNone then
    if cs.head? = some '0' then
      match takeBased? cs.tail with
      | some (n, rest) => (.whole n, rest)
      | none => (.whole 0, (takeDigits (· = '0') cs).2)
    else (.whole (Json.digitsValue whole), afterWhole)
  else
    let digits := Json.digitsValue (whole ++ fraction)
    (.real (Json.decimal digits (exponent.getD 0 - fraction.length)), afterExponent)

/-- The brackets that a sign leaves open. -/
def brackets (stack : List Char) (c : Char) : Except Fault (List Char) :=
  match c with
  | '(' => .ok (')' :: stack)
  | '[' => .ok (']' :: stack)
  | '\x7b' => .ok ('\x7d' :: stack)
  | c =>
    if c = ')' ∨ c = ']' ∨ c = '\x7d' then
      match stack with
      | [] => .error (.malformed ("unexpected " ++ quoted (String.singleton c)))
      | open' :: rest =>
        if open' = c then .ok rest
        else .error (.malformed ("unexpected " ++ quoted (String.singleton c) ++ ", expected " ++
          quoted (String.singleton open')))
    else .ok stack

/-- What follows the end of a tag. -/
def afterTag? (tag : Tag) (cs : List Char) : Option (List Char) :=
  if tag = .print then afterPrint? cs else afterEnd? "%\x7d" cs

/-- The token that a tag ends in. -/
def endToken (tag : Tag) : Token := if tag = .print then .printEnd else .blockEnd

/-- One step of reading: the tokens read, and where reading goes on. -/
structure Step where
  tokens : List Token
  /-- The tag that is still open, with its open brackets. -/
  inside : Option (Tag × List Char)
  /-- Whether a line end was read last. -/
  startsLine : Bool
  rest : List Char

/-- Whether what was read ends in a line end. -/
def readLineEnd (before after : List Char) : Bool :=
  (before.take (before.length - after.length)).getLast? = some '\n'

/-- The next token inside a tag; `position` is where it stands in the source. -/
def stepInside (tag : Tag) (stack : List Char) (position : Nat) : List Char → Step
  | [] => ⟨[], none, false, []⟩
  | c :: rest =>
    let cs := c :: rest
    let inside := some (tag, stack)
    match if stack.isEmpty then afterTag? tag cs else none with
    | some more => ⟨[endToken tag], none, readLineEnd cs more, more⟩
    | none =>
      if isBlank c then ⟨[], inside, false, rest.dropWhile isBlank⟩
      else if c.isDigit then
        let (t, more) := takeNumber cs
        ⟨[t], inside, false, more⟩
      else if isNameChar c then
        ⟨[nameToken (cs.takeWhile isNameChar)], inside, false, cs.dropWhile isNameChar⟩
      else if c = '\x27' ∨ c = '\x22' then
        match stringBody? c rest with
        | some (s, more) => ⟨[stringToken s], inside, false, more⟩
        | none => unexpected c
      else match longSigns.find? fun s => s.toList.isPrefixOf cs with
      | some s => ⟨[.sign s], inside, false, cs.drop s.length⟩
      | none =>
        if c ∈ shortSigns then
          match brackets stack c with
          | .ok stack => ⟨[.sign (String.singleton c)], some (tag, stack), false, rest⟩
          | .error fault => ⟨[.broken fault], none, false, []⟩
        else unexpected c
where
  /-- A character that no token starts with. -/
  unexpected (c : Char) : Step :=
    ⟨[.broken (.malformed ("unexpected char " ++ quoted (String.singleton c) ++ " at " ++
      toString position))], none, false, []⟩

/-- The text up to the next tag, and the opening of that tag. -/
def stepOutside (startsLine : Bool) (cs : List Char) : Step :=
  match nextTag cs with
  | (text, none) => ⟨textToken text, none, false, []⟩
  | (text, some (tag, rest)) =>
    let (sign, inner) := takeSign rest
    let front := textToken (textBefore sign (tag ≠ .print) startsLine text)
    match tag with
    | .print => ⟨front ++ [.printBegin], some (.print, []), false, inner⟩
    | .comment =>
      match afterComment? inner with
      | some more => ⟨front, none, readLineEnd inner more, more⟩
      | none => unended front "comment tag"
    | .block =>
      match afterRaw? rest with
      | none => ⟨front ++ [.blockBegin], some (.block, []), false, inner⟩
      | some raw =>
        match rawText? raw with
        | none => unended front "raw directive"
        | some (text, sign, more) =>
          ⟨front ++ textToken (textBefore sign true (readLineEnd rest raw) text), none,
            readLineEnd raw more, more⟩
where
  /-- The source ends inside of a tag that has its own end. -/
  unended (front : List Token) (what : String) : Step :=
    ⟨front ++ [.broken (.malformed ("Missing end of " ++ what))], none, false, []⟩

/-- The tokens of the characters that are left, up to the first fault; `total` is the length of the
source. -/
def tokensFrom (total : Nat) : (fuel : Nat) → (inside : Option (Tag × List Char)) →
    (startsLine : Bool) → List Char → List Token
  | 0, _, _, _ => []
  | _ + 1, _, _, [] => []
  | fuel + 1, inside, startsLine, cs =>
    let step := match inside with
      | some (tag, stack) => stepInside tag stack (total - cs.length) cs
      | none => stepOutside startsLine cs
    step.tokens ++ tokensFrom total fuel step.inside step.startsLine step.rest

/-- The tokens of a source. -/
def tokens (source : String) : List Token :=
  let cs := dropFinalLineEnd (normalLineEnds source.toList)
  tokensFrom cs.length (cs.length + 1) none true cs

end Enrollment.Template
