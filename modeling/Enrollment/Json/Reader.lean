/-
Reading JSON text.

Each reader takes the characters that are left and gives the value and the characters after it.
`depth` bounds how many values a reader may open or pass; `parse?` starts with one more than there
are characters, which no text can use up.
-/
import Enrollment.Json.Basic

namespace Enrollment.Json

/-- The blanks of JSON. -/
def isSpace (c : Char) : Bool := c = ' ' || c = '\t' || c = '\n' || c = '\r'

/-- The characters from the first that is no blank. -/
def skipSpace (cs : List Char) : List Char := cs.dropWhile isSpace

/-- The value of a hexadecimal digit. -/
def hexValue? (c : Char) : Option Nat :=
  if c.isDigit then some (c.toNat - 48)
  else if 'a' ≤ c ∧ c ≤ 'f' then some (c.toNat - 87)
  else if 'A' ≤ c ∧ c ≤ 'F' then some (c.toNat - 55)
  else none

/-- The value of four hexadecimal digits. -/
def hexFour? (a b c d : Char) : Option Nat := do
  return (((← hexValue? a) * 16 + (← hexValue? b)) * 16 + (← hexValue? c)) * 16 + (← hexValue? d)

/-- A code point, or the replacement character where a surrogate stands alone. -/
def charOf (n : Nat) : Char := if 0xd800 ≤ n ∧ n < 0xe000 then '\ufffd' else Char.ofNat n

/-- The characters of a string up to its closing quote, last first, and what follows. -/
def readString (acc : List Char) : List Char → Option (String × List Char)
  | [] => none
  | '\x22' :: rest => some (String.ofList acc.reverse, rest)
  | '\\' :: 'u' :: a :: b :: c :: d :: '\\' :: 'u' :: e :: f :: g :: h :: rest => do
    let high ← hexFour? a b c d
    let low ← hexFour? e f g h
    if 0xd800 ≤ high ∧ high < 0xdc00 ∧ 0xdc00 ≤ low ∧ low < 0xe000 then
      readString (Char.ofNat ((high - 0xd800) * 0x400 + (low - 0xdc00) + 0x10000) :: acc) rest
    else readString (charOf high :: acc) ('\\' :: 'u' :: e :: f :: g :: h :: rest)
  | '\\' :: 'u' :: a :: b :: c :: d :: rest => do
    readString (charOf (← hexFour? a b c d) :: acc) rest
  | '\\' :: 'n' :: rest => readString ('\n' :: acc) rest
  | '\\' :: 't' :: rest => readString ('\t' :: acc) rest
  | '\\' :: 'r' :: rest => readString ('\r' :: acc) rest
  | '\\' :: 'b' :: rest => readString ('\x08' :: acc) rest
  | '\\' :: 'f' :: rest => readString ('\x0c' :: acc) rest
  | '\\' :: c :: rest => readString (c :: acc) rest
  | c :: rest => readString (c :: acc) rest
termination_by cs => cs.length

/-- The whole number of a run of ASCII digits. -/
def digitsValue (cs : List Char) : Nat := cs.foldl (fun n c => 10 * n + (c.toNat - 48)) 0

/-- An optional sign and a number, for an exponent. -/
def readExponent (cs : List Char) : Int × List Char :=
  let (negative, cs) := match cs with
    | '-' :: rest => (true, rest)
    | '+' :: rest => (false, rest)
    | cs => (false, cs)
  let n : Int := digitsValue (cs.takeWhile Char.isDigit)
  (if negative then -n else n, cs.dropWhile Char.isDigit)

/-- A number: whole when it has neither a point nor an exponent. -/
def readNumber (cs : List Char) : Option (Json × List Char) :=
  let (negative, cs) := match cs with
    | '-' :: rest => (true, rest)
    | cs => (false, cs)
  let whole := cs.takeWhile Char.isDigit
  let rest := cs.dropWhile Char.isDigit
  if whole.isEmpty then none
  else
    let (fraction, rest, pointed) := match rest with
      | '.' :: more => (more.takeWhile Char.isDigit, more.dropWhile Char.isDigit, true)
      | rest => ([], rest, false)
    let (exponent, rest, powered) := match rest with
      | 'e' :: more => let (e, more) := readExponent more; (e, more, true)
      | 'E' :: more => let (e, more) := readExponent more; (e, more, true)
      | rest => (0, rest, false)
    if pointed || powered then
      let x := decimal (digitsValue (whole ++ fraction)) (exponent - fraction.length)
      some (.real (if negative then -x else x), rest)
    else
      let n : Int := digitsValue whole
      some (.int (if negative then -n else n), rest)

mutual

/-- The value that the characters start with. -/
def readValue (depth : Nat) (cs : List Char) : Option (Json × List Char) :=
  match depth with
  | 0 => none
  | depth + 1 =>
    match skipSpace cs with
    | '\x22' :: rest => (readString [] rest).map fun (s, rest) => (.str s, rest)
    | '[' :: rest =>
      match skipSpace rest with
      | ']' :: rest => some (.arr [], rest)
      | rest => (readItems depth rest).map fun (xs, rest) => (.arr xs, rest)
    | '\x7b' :: rest =>
      match skipSpace rest with
      | '\x7d' :: rest => some (.obj [], rest)
      | rest => (readMembers depth rest).map fun (ms, rest) => (.obj ms, rest)
    | 'n' :: 'u' :: 'l' :: 'l' :: rest => some (.null, rest)
    | 't' :: 'r' :: 'u' :: 'e' :: rest => some (.bool true, rest)
    | 'f' :: 'a' :: 'l' :: 's' :: 'e' :: rest => some (.bool false, rest)
    | cs => readNumber cs

/-- The items up to the closing bracket, at least one. -/
def readItems (depth : Nat) (cs : List Char) : Option (List Json × List Char) :=
  match depth with
  | 0 => none
  | depth + 1 => do
    let (x, rest) ← readValue depth cs
    match skipSpace rest with
    | ',' :: rest =>
      let (xs, rest) ← readItems depth rest
      return (x :: xs, rest)
    | ']' :: rest => return ([x], rest)
    | _ => none

/-- The members up to the closing brace, at least one. -/
def readMembers (depth : Nat) (cs : List Char) : Option (List (String × Json) × List Char) :=
  match depth with
  | 0 => none
  | depth + 1 =>
    match skipSpace cs with
    | '\x22' :: rest => do
      let (name, rest) ← readString [] rest
      match skipSpace rest with
      | ':' :: rest =>
        let (x, rest) ← readValue depth rest
        match skipSpace rest with
        | ',' :: rest =>
          let (ms, rest) ← readMembers depth rest
          return ((name, x) :: ms, rest)
        | '\x7d' :: rest => return ([(name, x)], rest)
        | _ => none
      | _ => none
    | _ => none

end

/-- The value that a text spells, blanks around it ignored. -/
def parse? (s : String) : Option Json :=
  let cs := s.toList
  match readValue (2 * cs.length + 2) cs with
  | some (j, rest) => if (skipSpace rest).isEmpty then some j else none
  | none => none

end Enrollment.Json
